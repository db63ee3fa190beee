/-
# Expressions of generated code

The expressions that request functions are built from, and their text. Types and parameter lists
arrive as text. A literal object spans lines or stands on one line, as its node says; two blanks
indent each level.
-/

import TypedClient.Naming.Quoting

namespace TypedClient.Code

/-- The blanks that indent a line of a level. -/
def indentation (level : Nat) : String :=
  String.ofList (List.replicate (2 * level) ' ')

/-- Operators of two operands. -/
inductive BinaryOperator where
  | notEqual
  | and
  | add
  deriving DecidableEq, Repr

/-- The sign of an operator. -/
def BinaryOperator.sign : BinaryOperator → String
  | notEqual => "!=="
  | and => "&&"
  | add => "+"

/-- An expression. -/
inductive Expr where
  /-- A name or a dotted path. -/
  | identifier (name : String)
  /-- A string literal, quoted when it is written. -/
  | literal (value : String)
  /-- Code that is written as it is. -/
  | raw (code : String)
  | call (callee : String) (typeArguments : List String) (arguments : List Expr)
  | construct (className : String) (arguments : List Expr)
  /-- An object on one line; keys are written as they are. -/
  | inlineObject (entries : List (String × Expr))
  /-- An object with one entry a line. -/
  | blockObject (entries : List (String × Expr))
  | member (object : Expr) (property : String)
  | await (operand : Expr)
  | not (operand : Expr)
  | binary (operator : BinaryOperator) (left right : Expr)
  | conditional (condition whenTrue whenFalse : Expr)
  | parenthesized (inner : Expr)
  /-- An expression seen as another type. -/
  | cast (operand : Expr) (type : String)
  deriving Inhabited

namespace Expr

/-- A call without type arguments. -/
def callOf (callee : String) (arguments : List Expr) : Expr :=
  .call callee [] arguments

/-- The test that a value is neither undefined nor null. -/
def isPresent (value : Expr) : Expr :=
  .binary .and (.binary .notEqual value (.identifier "undefined"))
    (.binary .notEqual value (.identifier "null"))

/-- Explicit type arguments; none are not written. -/
def typeArgumentList : List String → String
  | [] => ""
  | arguments => "<" ++ ", ".intercalate arguments ++ ">"

mutual

/-- The text of an expression whose line is indented to `level`. -/
def emit (level : Nat) : Expr → String
  | identifier name => name
  | raw code => code
  | literal value => Naming.quoteLiteral value
  | call callee typeArguments arguments =>
    callee ++ typeArgumentList typeArguments ++ "(" ++ emitArguments level arguments ++ ")"
  | construct className arguments =>
    "new " ++ className ++ "(" ++ emitArguments level arguments ++ ")"
  | inlineObject [] => "\x7b\x7d"
  | inlineObject entries => "\x7b " ++ ", ".intercalate (emitEntries level entries) ++ " \x7d"
  | blockObject [] => "\x7b\x7d"
  | blockObject entries =>
    "\x7b\n" ++ ",\n".intercalate (emitLines (level + 1) entries) ++ "\n" ++
      indentation level ++ "\x7d"
  | member object property => emit level object ++ "." ++ property
  | await operand => "await " ++ emit level operand
  | not operand => "!" ++ emit level operand
  | binary operator left right =>
    emit level left ++ " " ++ operator.sign ++ " " ++ emit level right
  | conditional condition whenTrue whenFalse =>
    emit level condition ++ " ? " ++ emit level whenTrue ++ " : " ++ emit level whenFalse
  | parenthesized inner => "(" ++ emit level inner ++ ")"
  | cast operand type => emit level operand ++ " as " ++ type

/-- The text of a list of arguments. -/
def emitArguments (level : Nat) : List Expr → String
  | [] => ""
  | [last] => emit level last
  | first :: rest => emit level first ++ ", " ++ emitArguments level rest

/-- The texts of entries on one line. -/
def emitEntries (level : Nat) : List (String × Expr) → List String
  | [] => []
  | (key, value) :: rest => (key ++ ": " ++ emit level value) :: emitEntries level rest

/-- The lines of entries with a line each. -/
def emitLines (level : Nat) : List (String × Expr) → List String
  | [] => []
  | (key, value) :: rest =>
    (indentation level ++ key ++ ": " ++ emit level value) :: emitLines level rest

end

end Expr

end TypedClient.Code

/-
# Statements and functions of generated code

The statements of a function body, one or more lines each, and the exported function that holds
them.
-/

import TypedClient.Code.Expr

namespace TypedClient.Code

/-- A statement. -/
inductive Statement where
  /-- A constant and its value. -/
  | constant (name : String) (value : Expr)
  | expression (value : Expr)
  | returned (value : Expr)
  | thrown (value : Expr)
  /-- An expression that runs only under a condition, on one line. -/
  | guarded (condition action : Expr)
  /-- Statements that run only under a condition. -/
  | branch (condition : Expr) (body : List Statement)
  /-- A loop over the items of a value. -/
  | forEach (binding : String) (items : Expr) (body : List Statement)
  deriving Inhabited

namespace Statement

mutual

/-- The lines of a statement, each with its line feed. -/
def emit (level : Nat) : Statement → String
  | constant name value =>
    indentation level ++ "const " ++ name ++ " = " ++ value.emit level ++ ";\n"
  | expression value => indentation level ++ value.emit level ++ ";\n"
  | returned value => indentation level ++ "return " ++ value.emit level ++ ";\n"
  | thrown value => indentation level ++ "throw " ++ value.emit level ++ ";\n"
  | guarded condition action =>
    indentation level ++ "if (" ++ condition.emit level ++ ") " ++ action.emit level ++ ";\n"
  | branch condition body =>
    indentation level ++ "if (" ++ condition.emit level ++ ") \x7b\n" ++
      emitBody (level + 1) body ++ indentation level ++ "\x7d\n"
  | forEach binding items body =>
    indentation level ++ "for (const " ++ binding ++ " of " ++ items.emit level ++ ") \x7b\n" ++
      emitBody (level + 1) body ++ indentation level ++ "\x7d\n"

/-- The lines of several statements. -/
def emitBody (level : Nat) : List Statement → String
  | [] => ""
  | statement :: rest => emit level statement ++ emitBody level rest

end

end Statement

/-- The body of a function. -/
inductive FunctionBody where
  /-- An expression, on the line after the arrow. -/
  | expression (value : Expr)
  /-- Statements between braces. -/
  | block (statements : List Statement)

/-- An exported arrow function. -/
structure Function where
  name : String
  isAsync : Bool
  /-- The parameter list with its parentheses. -/
  parameters : String
  /-- The return type, where one is annotated. -/
  returnType? : Option String
  body : FunctionBody

namespace Function

/-- The line of a function up to its arrow. -/
def header (function : Function) : String :=
  "export const " ++ function.name ++ " = " ++ (if function.isAsync then "async " else "") ++
    function.parameters ++ (function.returnType?.map (": " ++ ·)).getD "" ++ " =>"

/-- The text of a function. -/
def emit (function : Function) : String :=
  match function.body with
  | .expression value => function.header ++ "\n  " ++ value.emit 1 ++ ";\n"
  | .block statements =>
    function.header ++ " \x7b\n" ++ Statement.emitBody 1 statements ++ "\x7d;\n"

end Function

end TypedClient.Code

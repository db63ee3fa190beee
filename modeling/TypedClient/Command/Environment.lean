/-
# What a run has to do with

The surroundings of a run besides its files, and what it leaves for its caller.
-/

import TypedClient.Files.Access
import TypedClient.Format.Prettier

namespace TypedClient

/-- The formatter that gives texts to a program. -/
def Prettier.formatter (prettier : Prettier)
    (runProgram : (program : String) → (arguments : List String) → (input : String) →
      ProcessOutcome) : Formatter := fun text language style =>
  interpret (runProgram prettier.program (prettier.arguments language style) text)

namespace Command

/-- The surroundings of a run. -/
structure Environment (m : Type → Type) where
  /-- The directory that the settings file is in by default. -/
  home? : Option String
  /-- Fetches a document from an address. -/
  fetch : (url cookie : String) → m (Except String String)
  /-- The time since the run began, in words. -/
  elapsed : m String
  /-- Whether a program is installed. -/
  isInstalled : String → Bool
  /-- Runs a program that is installed on an input. -/
  runProgram : (program : String) → (arguments : List String) → (input : String) → ProcessOutcome

/-- What a run leaves: its exit code and what it has to say. -/
structure Outcome where
  exitCode : Nat := 0
  output : String := ""
  errors : String := ""
  deriving DecidableEq, Repr

end Command

end TypedClient

/-
# The program

Runs on the files of the disk. Documents are read from files only, and modules are laid out by the
built-in formatter.
-/

import TypedClient.Command.Run

namespace TypedClient.Command

/-- A failure of the system as a failure on a file. -/
def fileError : IO.Error → FileError
  | .noFileOrDirectory .. => .notFound
  | .alreadyExists .. => .alreadyExists
  | error => .other (toString error)

/-- Carries out an operation on the disk and keeps its failure. -/
def onDisk {α : Type} (operation : IO α) : IO (Except FileError α) := do
  match ← operation.toBaseIO with
  | .ok value => pure (.ok value)
  | .error error => pure (.error (fileError error))

/-- The text of a file on the disk. -/
def readText (path : String) : IO (Except FileError String) := do
  match ← onDisk (IO.FS.readBinFile path) with
  | .ok bytes =>
    match String.fromUTF8? bytes with
    | some text => pure (.ok text)
    | none => pure (.error .notText)
  | .error error => pure (.error error)

instance : FileAccess IO where
  holds path := return (← onDisk (IO.FS.realPath path)).isOk
  isFile path := return (← onDisk (IO.FS.readBinFile path)).isOk
  read := readText
  write path content := onDisk (IO.FS.writeFile path content)
  makeDirectories path := if path = "" then pure (.ok ()) else onDisk (IO.FS.createDirAll path)

/-- A time in milliseconds, in words. -/
def timeText (milliseconds : Nat) : String :=
  if milliseconds < 1000 then s!"{milliseconds}ms"
  else s!"{milliseconds / 1000}s {milliseconds % 1000}ms"

/-- The surroundings of a run that began at a time. -/
def surroundings (start : Nat) : IO (Environment IO) := do
  return {
    home? := ← IO.getEnv "HOME"
    fetch := fun url _ => pure (.error s!"Failed to fetch {url}: there is no network")
    elapsed := do return timeText ((← IO.monoMsNow) - start)
    isInstalled := fun _ => false
    runProgram := fun _ _ _ => ⟨1, "", ""⟩ }

end TypedClient.Command

/-- Runs the program and prints what it has to say. -/
def main (arguments : List String) : IO UInt32 := do
  let environment ← TypedClient.Command.surroundings (← IO.monoMsNow)
  let outcome ← TypedClient.Command.run environment arguments
  (← IO.getStdout).putStr outcome.output
  (← IO.getStderr).putStr outcome.errors
  return UInt32.ofNat outcome.exitCode

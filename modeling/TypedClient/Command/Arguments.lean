/-
# Commands and their arguments

The commands of the program, with the options that each one takes.
-/

import TypedClient.Command.Option
import TypedClient.Settings.Override

namespace TypedClient.Command

/-- Arguments of every command that reads a document. -/
structure SharedArguments where
  /-- The address or file of the document. -/
  source : Option String := none
  /-- The directory to write to. -/
  out : Option String := none
  tags : Option (List String) := none
  /-- Whether tags are picked interactively. -/
  choose : Bool := false
  /-- Whether changes are shown and not made. -/
  dryRun : Bool := false
  /-- Whether stored settings are used without asking. -/
  yes : Bool := false
  /-- The settings file, if it is not the one in the home directory. -/
  config : Option String := none
  deriving DecidableEq, Repr

/-- Arguments of the command that generates modules. -/
structure GenerateArguments extends SharedArguments where
  language : Option Language := none
  template : Option String := none
  naming : Option NamingPolicy := none
  typeOnly : Bool := false
  mock : Bool := false
  formatter : Option FormatterChoice := none
  interfacePath : Option String := none
  deriving DecidableEq, Repr

/-- Arguments of the command that writes mock data. -/
structure MockArguments extends SharedArguments where
  wrap : Bool := false
  deriving DecidableEq, Repr

/-- What can be done with the stored settings. -/
inductive SettingsCommand where
  | print
  | reset
  | path
  deriving DecidableEq, Repr

/-- A command with its arguments. -/
inductive Request where
  | generate (arguments : GenerateArguments)
  | mock (arguments : MockArguments)
  | settings (command : SettingsCommand)
  deriving DecidableEq, Repr

/-- Reads a path, which is not empty. -/
def path? (text : String) : Option String := if text = "" then none else some text

/-- Reads tags with commas between them. -/
def tagsOf (text : String) : List String :=
  (Text.splitOn (· = ',') text.toList).map String.ofList

/-- The options of every command that reads a document. -/
def sharedForms : List (OptionForm SharedArguments) :=
  [ .single "source" (some 's') some (·.source) fun v a => { a with source := some v },
    .single "out" (some 'o') path? (·.out) fun v a => { a with out := some v },
    .list "tags" tagsOf (·.tags) fun v a => { a with tags := some v },
    .switch "choose" none (·.choose) fun a => { a with choose := true },
    .switch "dry-run" none (·.dryRun) fun a => { a with dryRun := true },
    .switch "yes" (some 'y') (·.yes) fun a => { a with yes := true },
    .single "config" none path? (·.config) fun v a => { a with config := some v } ]

/-- Reads the name of a formatter, which has to be written exactly. -/
def exactFormatter? (text : String) : Option FormatterChoice :=
  FormatterChoice.all.find? (·.name = text)

/-- The options of the command that generates modules. -/
def generateForms : List (OptionForm GenerateArguments) :=
  [ .help,
    .single "lang" (some 'l') (fun text => (Language.parse text).toOption) (·.language)
      fun v a => { a with language := some v },
    .single "template" (some 't') some (·.template) fun v a => { a with template := some v },
    .single "naming" none (fun text => (NamingPolicy.parse text).toOption) (·.naming)
      fun v a => { a with naming := some v },
    .switch "type-only" none (·.typeOnly) fun a => { a with typeOnly := true },
    .switch "mock" none (·.mock) fun a => { a with mock := true },
    .single "formatter" none exactFormatter? (·.formatter)
      fun v a => { a with formatter := some v },
    .single "interface-path" none some (·.interfacePath)
      fun v a => { a with interfacePath := some v } ] ++
  sharedForms.map (.onPart (·.toSharedArguments) fun v a => { a with toSharedArguments := v })

/-- The options of the command that writes mock data. -/
def mockForms : List (OptionForm MockArguments) :=
  [ .help, .switch "wrap" none (·.wrap) fun a => { a with wrap := true } ] ++
  sharedForms.map (.onPart (·.toSharedArguments) fun v a => { a with toSharedArguments := v })

/-- Tags are either given or picked. -/
def SharedArguments.check (arguments : SharedArguments) : Except Stop Unit :=
  if arguments.choose && arguments.tags.isSome then
    .error (.usage (.conflictingOptions "choose" "tags"))
  else .ok ()

/-- The name of a command on stored settings. -/
def SettingsCommand.name : SettingsCommand → String
  | .print => "show"
  | .reset => "reset"
  | .path => "path"

/-- Every command on stored settings. -/
def SettingsCommand.all : List SettingsCommand := [.print, .reset, .path]

/-- Whether help on stored settings knows a topic. -/
def isSettingsTopic : List String → Bool
  | [] => true
  | [name] => name = "help" || SettingsCommand.all.any (·.name = name)
  | _ => false

/-- Whether help knows a topic. -/
def isTopic : List String → Bool
  | [] => true
  | "config" :: rest => isSettingsTopic rest
  | [name] => name = "generate" || name = "mock" || name = "help"
  | _ => false

/-- Asks for help on a topic. -/
def helpOn (isKnown : List String → Bool) (topic : List String) : Stop :=
  if isKnown topic then .help else .usage (.unknownCommand (" ".intercalate topic))

/-- Reads what is to be done with the stored settings. -/
def readSettings (arguments : List String) : Except Stop SettingsCommand :=
  match arguments with
  | "help" :: topic => .error (helpOn isSettingsTopic topic)
  | name :: rest =>
    match SettingsCommand.all.find? (·.name = name) with
    | some command => (readOptions [.help] none rest ()).map fun _ => command
    | none => do
      readOptions [.help] none arguments ()
      .error (.usage .missingCommand)
  | [] => .error (.usage .missingCommand)

/-- Reads the arguments of the program. No arguments ask for help. -/
def Request.read (arguments : List String) : Except Stop Request :=
  match arguments with
  | "generate" :: rest => do
    let read ← readOptions generateForms none rest {}
    read.check
    .ok (.generate read)
  | "mock" :: rest => do
    let read ← readOptions mockForms none rest {}
    read.check
    .ok (.mock read)
  | "config" :: rest => (readSettings rest).map .settings
  | "help" :: topic => .error (helpOn isTopic topic)
  | _ => do
    readOptions [.help, .version] none arguments ()
    .error .help

end TypedClient.Command

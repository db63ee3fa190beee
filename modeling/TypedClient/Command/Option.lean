/-
# Options of a command

Arguments are read from the first to the last. A long option starts with two dashes and a short one
with one; several short ones may share a dash. A value follows its option in the next argument,
behind an equals sign, or, for a short option, directly. Two dashes alone end the options.
-/

import TypedClient.Text.Lines

namespace TypedClient.Command

/-- Why arguments cannot be read. -/
inductive UsageError where
  | unknownCommand (name : String)
  | missingCommand
  | unexpectedArgument (argument : String)
  | missingValue (option : String)
  | unexpectedValue (option : String)
  | repeatedOption (option : String)
  | invalidValue (option value : String)
  | conflictingOptions (first second : String)
  deriving DecidableEq, Repr

/-- The words for a failure. -/
def UsageError.message : UsageError → String
  | unknownCommand name => s!"unrecognized command '{name}'"
  | missingCommand => "a command is missing"
  | unexpectedArgument argument => s!"unexpected argument '{argument}'"
  | missingValue option => s!"a value is missing for '--{option}'"
  | unexpectedValue option => s!"'--{option}' takes no value"
  | repeatedOption option => s!"'--{option}' is given more than once"
  | invalidValue option value => s!"invalid value '{value}' for '--{option}'"
  | conflictingOptions first second => s!"'--{first}' cannot be given with '--{second}'"

/-- Why no command is carried out. -/
inductive Stop where
  | help
  | version
  | usage (error : UsageError)
  deriving DecidableEq, Repr

/-- What an option does to the arguments read so far. -/
inductive OptionEffect (α : Type) where
  /-- Ends the reading. -/
  | stop (stop : Stop)
  /-- Takes no value. -/
  | switch (set : α → Except UsageError α)
  /-- Takes a value. -/
  | value (set : String → α → Except UsageError α)

/-- An option that a command knows. -/
structure OptionForm (α : Type) where
  name : String
  short? : Option Char := none
  effect : OptionEffect α

/-- What reads the next argument as the value of an option. -/
structure Pending (α : Type) where
  name : String
  set : String → α → Except UsageError α

namespace OptionForm

variable {α β γ : Type}

/-- The option that asks for help. -/
def help : OptionForm α := ⟨"help", some 'h', .stop .help⟩

/-- The option that asks for the version. -/
def version : OptionForm α := ⟨"version", some 'V', .stop .version⟩

/-- A switch that may be given once. -/
def switch (name : String) (short? : Option Char) (get : α → Bool) (put : α → α) : OptionForm α :=
  ⟨name, short?, .switch fun target =>
    if get target then .error (.repeatedOption name) else .ok (put target)⟩

/-- An option with a value that may be given once. -/
def single (name : String) (short? : Option Char) (read? : String → Option β)
    (get : α → Option β) (put : β → α → α) : OptionForm α :=
  ⟨name, short?, .value fun text target =>
    if (get target).isSome then .error (.repeatedOption name)
    else
      match read? text with
      | some value => .ok (put value target)
      | none => .error (.invalidValue name text)⟩

/-- An option with a list of values, which goes on where it is given again. -/
def list (name : String) (read : String → List β) (get : α → Option (List β))
    (put : List β → α → α) : OptionForm α :=
  ⟨name, none, .value fun text target => .ok (put ((get target).getD [] ++ read text) target)⟩

/-- An option of a part of the arguments. -/
def onPart (get : γ → α) (put : α → γ → γ) (form : OptionForm α) : OptionForm γ :=
  { name := form.name
    short? := form.short?
    effect := match form.effect with
      | .stop stop => .stop stop
      | .switch set => .switch fun target => (set (get target)).map (put · target)
      | .value set => .value fun text target => (set text (get target)).map (put · target) }

end OptionForm

/-- The form of an argument. -/
inductive ArgumentForm where
  /-- Two dashes alone. -/
  | separator
  | long (name : String) (value? : Option String)
  /-- The letters after a single dash. -/
  | short (letters : List Char)
  | plain
  deriving DecidableEq, Repr

/-- The form of an argument. A dash alone is plain. -/
def ArgumentForm.of (argument : String) : ArgumentForm :=
  match argument.toList with
  | ['-', '-'] => .separator
  | '-' :: '-' :: rest =>
    match Text.splitOnce (· = '=') rest with
    | some (name, value) => .long (String.ofList name) (some (String.ofList value))
    | none => .long (String.ofList rest) none
  | '-' :: c :: rest => .short (c :: rest)
  | _ => .plain

section

variable {α : Type} (forms : List (OptionForm α))

/-- A failure as a reason to stop. -/
def orStop (result : Except UsageError α) : Except Stop α := result.mapError .usage

/-- Reads a long option. -/
def readLong (name : String) (value? : Option String) (target : α) :
    Except Stop (Option (Pending α) × α) :=
  match forms.find? (·.name = name), value? with
  | none, _ => .error (.usage (.unexpectedArgument ("--" ++ name)))
  | some form, some value =>
    match form.effect with
    | .value set => (orStop (set value target)).map (none, ·)
    | _ => .error (.usage (.unexpectedValue name))
  | some form, none =>
    match form.effect with
    | .stop stop => .error stop
    | .switch set => (orStop (set target)).map (none, ·)
    | .value set => .ok (some ⟨form.name, set⟩, target)

/-- Reads short options that share a dash. What follows one that takes a value is its value. -/
def readShort : List Char → α → Except Stop (Option (Pending α) × α)
  | [], target => .ok (none, target)
  | letter :: rest, target =>
    match forms.find? (·.short? = some letter) with
    | none => .error (.usage (.unexpectedArgument (String.ofList ['-', letter])))
    | some form =>
      match form.effect with
      | .stop stop => .error stop
      | .switch set =>
        match set target with
        | .ok target => readShort rest target
        | .error error => .error (.usage error)
      | .value set =>
        match rest with
        | [] => .ok (some ⟨form.name, set⟩, target)
        | '=' :: value => (orStop (set (String.ofList value) target)).map (none, ·)
        | value => (orStop (set (String.ofList value) target)).map (none, ·)

/-- Reads arguments in order; `pending` is the option that waits for its value. -/
def readOptions : (pending : Option (Pending α)) → List String → α → Except Stop α
  | none, [], target => .ok target
  | some pending, [], _ => .error (.usage (.missingValue pending.name))
  | some pending, argument :: rest, target =>
    match ArgumentForm.of argument with
    | .plain => do readOptions none rest (← orStop (pending.set argument target))
    | _ => .error (.usage (.missingValue pending.name))
  | none, argument :: rest, target =>
    match ArgumentForm.of argument with
    | .plain => .error (.usage (.unexpectedArgument argument))
    | .separator =>
      match rest with
      | [] => .ok target
      | extra :: _ => .error (.usage (.unexpectedArgument extra))
    | .long name value? => do
      let (pending, target) ← readLong forms name value? target
      readOptions pending rest target
    | .short letters => do
      let (pending, target) ← readShort forms letters target
      readOptions pending rest target

end

end TypedClient.Command

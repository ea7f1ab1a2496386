import Scaffold.Path.Basic

/-!
# Command line arguments

The first argument is the name of a command. Each of the two commands takes one option with a path
and one flag, both with a long and a short spelling, and can be asked for help. Short spellings may
be joined, as in `-vc file`; the value of an option stands behind the option, behind an equals sign
or, for the short spelling, directly attached.

Arguments are read from left to right and the first problem counts, with one delay: what is behind
an option is looked at when the next option is met or the arguments end. Then it has to be there,
the option must not have been given before, and the path must not be empty.

## Main definitions

* `Command`: what the program is asked to do.
* `ArgumentError`: why it does something else.
* `CommandSyntax`, `Progress`: the spellings of a command, and what was given so far.
* `Command.ofArguments`: the command that arguments spell.
-/

namespace Scaffold

/-- What the program is asked to do. -/
inductive Command where
  | generate (config : Path) (verbose : Bool)
  | init (output : Path) (force : Bool)
  deriving DecidableEq, Repr

/-- Why arguments spell no command. Asking for help or for the version is among the reasons. -/
inductive ArgumentError where
  | help
  | version
  | missingCommand
  | unknownCommand
  | unknownArgument
  | invalidValue
  | conflict
  | tooManyValues
  deriving DecidableEq, Repr

/-- The spellings of the option and the flag of a command, without their dashes. -/
structure CommandSyntax where
  optionShort : Char
  optionLong : String
  flagShort : Char
  flagLong : String
  deriving DecidableEq, Repr

/-- What stands behind an option that was met last: nothing yet, or a value. -/
inductive Pending where
  | awaited
  | value (text : String)
  deriving DecidableEq, Repr

/-- What was given so far. -/
structure Progress where
  path : Option String
  flag : Bool
  pending : Option Pending
  deriving DecidableEq, Repr

namespace Progress

/-- Nothing was given. -/
def none : Progress := ⟨.none, false, .none⟩

/-- The value of the option is settled. -/
def settle (p : Progress) (text : String) : Except ArgumentError Progress :=
  if p.path.isSome then .error .conflict
  else if text = "" then .error .invalidValue
  else .ok { p with path := some text, pending := .none }

/-- What stands behind the option that was met last is settled. -/
def resolve (p : Progress) : Except ArgumentError Progress :=
  match p.pending with
  | .none => .ok p
  | some .awaited => .error .invalidValue
  | some (.value text) => p.settle text

/-- The flag is met. -/
def meetFlag (p : Progress) : Except ArgumentError Progress := do
  let p ← p.resolve
  if p.flag then .error .conflict else .ok { p with flag := true }

/-- The option is met with a value attached to it. -/
def meetAttached (p : Progress) (text : String) : Except ArgumentError Progress := do
  let p ← p.resolve
  p.settle text

/-- The option is met without a value. -/
def meetOption (p : Progress) : Except ArgumentError Progress := do
  let p ← p.resolve
  .ok { p with pending := some .awaited }

/-- Help is asked for. -/
def meetHelp (p : Progress) : Except ArgumentError Progress := do
  let _ ← p.resolve
  .error .help

end Progress

/-- A long spelling without its dashes, cut at the first equals sign. -/
def splitValue (s : List Char) : String × Option String :=
  match s.dropWhile (· != '=') with
  | [] => (String.ofList s, none)
  | _ :: value => (String.ofList (s.takeWhile (· != '=')), some (String.ofList value))

namespace CommandSyntax

/-- A long spelling is read. -/
def readLong (c : CommandSyntax) (p : Progress) (s : List Char) : Except ArgumentError Progress :=
  let (name, value) := splitValue s
  if name = c.optionLong then
    match value with
    | some text => p.meetAttached text
    | none => p.meetOption
  else if name = c.flagLong then
    if value.isSome then .error .tooManyValues else p.meetFlag
  else if name = "help" then
    if value.isSome then .error .tooManyValues else p.meetHelp
  else .error .unknownArgument

/-- Joined short spellings are read. -/
def readShort (c : CommandSyntax) : Progress → List Char → Except ArgumentError Progress
  | p, [] => .ok p
  | p, s :: rest =>
    if s = c.optionShort then
      match rest with
      | [] => p.meetOption
      | '=' :: value => p.meetAttached (String.ofList value)
      | value => p.meetAttached (String.ofList value)
    else if s = c.flagShort then
      match p.meetFlag with
      | .ok p => readShort c p rest
      | .error e => .error e
    else if s = 'h' then p.meetHelp
    else .error .unknownArgument

/-- An argument that spells no option is read: it is the value of an option that awaits one. -/
def readPlain (p : Progress) (argument : String) : Except ArgumentError Progress :=
  match p.pending with
  | some .awaited => .ok { p with pending := some (.value argument) }
  | _ => .error .unknownArgument

/-- The arguments of a command are read. Behind two dashes there is nothing left to say. -/
def readArguments (c : CommandSyntax) : Progress → List String → Except ArgumentError Progress
  | p, [] => p.resolve
  | p, argument :: rest =>
    match argument.toList with
    | ['-', '-'] => if rest.isEmpty then p.resolve else .error .unknownArgument
    | '-' :: '-' :: long => (c.readLong p long).bind fun p => readArguments c p rest
    | '-' :: s :: short => (c.readShort p (s :: short)).bind fun p => readArguments c p rest
    | _ => (readPlain p argument).bind fun p => readArguments c p rest

end CommandSyntax

/-- The spellings for generating a project. -/
def generateSyntax : CommandSyntax := ⟨'c', "config", 'v', "verbose"⟩

/-- The spellings for writing a settings file. -/
def initSyntax : CommandSyntax := ⟨'o', "output", 'f', "force"⟩

/-- The settings file of a command that names none. -/
def standardSettingsFile : String := "uml-codegen.toml"

/-- Whether a text is the name of a command, help included. -/
def isCommandName (s : String) : Bool :=
  s == "generate" || s == "init" || s == "help"

/-- What help is asked for: nothing in particular, or one of the commands. -/
def readHelp : List String → ArgumentError
  | [] => .help
  | [command] => if isCommandName command then .help else .unknownCommand
  | _ => .unknownCommand

/-- Why an argument in the place of a command spells none. Two dashes keep what is behind them from
being a command. -/
def readOutside (argument : String) (rest : List String) : ArgumentError :=
  match argument.toList with
  | ['-', '-'] =>
    match rest with
    | [] => .missingCommand
    | next :: _ => if isCommandName next then .unknownArgument else .unknownCommand
  | '-' :: '-' :: long =>
    let (name, value) := splitValue long
    if name = "help" then if value.isSome then .tooManyValues else .help
    else if name = "version" then if value.isSome then .tooManyValues else .version
    else .unknownArgument
  | '-' :: 'h' :: _ => .help
  | '-' :: 'V' :: _ => .version
  | '-' :: _ :: _ => .unknownArgument
  | _ => .unknownCommand

/-- The command that arguments spell. -/
def Command.ofArguments : List String → Except ArgumentError Command
  | [] => .error .missingCommand
  | argument :: rest =>
    if argument = "generate" then
      (generateSyntax.readArguments .none rest).map fun p =>
        .generate ⟨p.path.getD standardSettingsFile⟩ p.flag
    else if argument = "init" then
      (initSyntax.readArguments .none rest).map fun p =>
        .init ⟨p.path.getD standardSettingsFile⟩ p.flag
    else if argument = "help" then .error (readHelp rest)
    else .error (readOutside argument rest)

end Scaffold

import Scaffold.Command.Arguments
import Scaffold.Project.Run

/-!
# Running commands

What the commands do, and how the program ends: with a code, after what it printed. A failure is
reported among the warnings.

## Main definitions

* `Command.run`: a command is carried out.
* `runProgram`: the program is run on its arguments.
-/

namespace Scaffold

/-- What is printed when a settings file was made. -/
def settingsHelp : List String :=
  ["",
   "Edit the file to configure:",
   "  [input]",
   "    schema_file: UML class diagram (JSON)",
   "  [output]",
   "    dir: Directory for the generated project",
   "    overwrite: Replace an existing project (default: false)",
   "    archive: Write <dir>/<artifact_id>.zip instead (default: false)",
   "  [project]",
   "    base_package: Java package of the generated sources",
   "    artifact_id / group_id: Maven coordinates",
   "    java_version / spring_boot_version: Build targets",
   "  [application]",
   "    server_port, ddl_auto, show_sql: Spring Boot settings",
   "  [application.datasource]",
   "    vendor, host, port, name, username, password, driver, dialect"]

variable {m : Type → Type} [Monad m] [Storage m] [Console m]

/-- A command is carried out. -/
def Command.run : Command → ExceptT Failure m Unit
  | .generate config verbose => do
    let settings ← Settings.load config
    printLine verbose ("Loaded configuration from: " ++ config.text)
    Scaffold.run verbose settings
  | .init output force => do
    if (← ExceptT.lift (Storage.exists? output)) && !force then
      throw (.settingsExist output)
    Settings.standard.save output
    printLine true ("Created configuration file: " ++ output.text)
    settingsHelp.forM (printLine true)

/-- How the program is used. -/
def usage : String :=
  textOfLines
    ["Usage: uml-codegen <COMMAND>",
     "",
     "Commands:",
     "  generate  Generate a project [-c|--config <PATH>] [-v|--verbose]",
     "  init      Write a settings file [-o|--output <PATH>] [-f|--force]",
     "  help      Print help"]

/-- The name and version of the program. -/
def versionText : String := "uml-codegen 0.1.0\n"

/-- How the program ends when its arguments spell no command. Help and the version are what was
asked for, everything else is a mistake. -/
def ArgumentError.exitCode : ArgumentError → Nat
  | .help | .version => 0
  | .missingCommand | .unknownCommand | .unknownArgument | .invalidValue | .conflict
  | .tooManyValues => 2

/-- What is wrong with the arguments. -/
def ArgumentError.message : ArgumentError → String
  | .help | .version | .missingCommand => ""
  | .unknownCommand => "error: unrecognized subcommand\n\n"
  | .unknownArgument => "error: unexpected argument\n\n"
  | .invalidValue => "error: a value is required for the option\n\n"
  | .conflict => "error: an option cannot be used multiple times\n\n"
  | .tooManyValues => "error: unexpected value for a flag\n\n"

/-- The program is run on its arguments and ends with a code. -/
def runProgram (arguments : List String) : m Nat := do
  match Command.ofArguments arguments with
  | .error .version =>
    Console.print versionText
    return 0
  | .error .help =>
    Console.print usage
    return 0
  | .error e =>
    Console.warn (e.message ++ usage)
    return e.exitCode
  | .ok command =>
    match ← command.run.run with
    | .ok () => return 0
    | .error failure =>
      Console.warn failure.report
      return 1

end Scaffold

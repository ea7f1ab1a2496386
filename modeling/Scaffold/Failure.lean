import Scaffold.Diagram.Document
import Scaffold.Packaging.Basic
import Scaffold.Project.Generation
import Scaffold.Settings.Document

/-!
# Failures

Everything that can go wrong between reading the settings and writing the project, as one type, with
the words in which it is reported. A failure that another part of the program or the system caused
names that cause.

## Main definitions

* `Failure`: what went wrong.
* `Failure.message`, `Failure.causes`: the words for it.
* `Failure.report`: the text that is shown to the user.
-/

namespace Scaffold

/-- What a failure may be caused by. -/
inductive Cause where
  | document (e : Json.Error)
  | settings (e : SettingsError)
  | disk (e : DiskError)
  | explanation (text : String)
  deriving DecidableEq, Repr

/-- The message of a cause. -/
def Cause.message : Cause → String
  | .document e => e.message
  | .settings .form => "not a settings document"
  | .settings (.content e) => e.message
  | .disk e => e.message
  | .explanation text => text

/-- Why a diagram cannot be generated from. -/
inductive DiagramError where
  | duplicateId (id className : String)
  deriving DecidableEq, Repr

/-- The message of an error. -/
def DiagramError.message : DiagramError → String
  | .duplicateId id className =>
    "Duplicate class id '" ++ id ++ "' (class '" ++ className ++ "')"

/-- A diagram is accepted if no two of its classes have the same identifier. -/
def Diagram.validate (d : Diagram) : Except DiagramError Unit :=
  match d.duplicate? with
  | some c => .error (.duplicateId (Text.trim c.id) c.name)
  | none => .ok ()

/-- What went wrong. -/
inductive Failure where
  | readingSettings (path : Path) (e : DiskError)
  | parsingSettings (path : Path) (e : SettingsError)
  | writingSettings (path : Path) (e : DiskError)
  | settingsExist (path : Path)
  | missingDiagram (path : Path)
  | invalidPackage (package : String)
  | blankArtifact
  | readingDiagram (path : Path) (e : DiskError)
  | parsingDiagram (path : Path) (e : Json.Error)
  | invalidDiagram (path : Path) (e : DiagramError)
  | generation (e : GenerationError)
  | packaging (e : PackagingError)
  deriving DecidableEq, Repr

/-- The message of an error in the generation of a project. -/
def GenerationError.message : GenerationError → String
  | .rendering template path _ =>
    "Failed to render " ++ template.text ++ " template for " ++ path.text
  | .placing e => e.message

/-- What caused an error in the generation of a project. -/
def GenerationError.causes : GenerationError → List Cause
  | .rendering _ _ explanation => [.explanation explanation]
  | .placing _ => []

namespace Failure

/-- The message of a failure. -/
def message : Failure → String
  | .readingSettings path _ => "Failed to read config file: " ++ path.text
  | .parsingSettings path _ => "Failed to parse config file: " ++ path.text
  | .writingSettings path _ => "Failed to write config file: " ++ path.text
  | .settingsExist path =>
    "Configuration file already exists: " ++ path.text ++ ". Use --force to overwrite."
  | .missingDiagram path => "Schema file does not exist: " ++ path.text
  | .invalidPackage package => "Invalid base package: '" ++ package ++ "'"
  | .blankArtifact => "Artifact id must not be empty"
  | .readingDiagram path _ => "Failed to read UML schema: " ++ path.text
  | .parsingDiagram path _ => "Failed to parse UML schema: " ++ path.text
  | .invalidDiagram path _ => "Invalid UML schema: " ++ path.text
  | .generation e => e.message
  | .packaging e => e.message

/-- What caused a failure, the outermost cause first. -/
def causes : Failure → List Cause
  | .readingSettings _ e => [.disk e]
  | .parsingSettings _ e => [.settings e]
  | .writingSettings _ e => [.disk e]
  | .settingsExist _ | .missingDiagram _ | .invalidPackage _ | .blankArtifact => []
  | .readingDiagram _ e => [.disk e]
  | .parsingDiagram _ e => [.document e]
  | .invalidDiagram _ e => [.explanation e.message]
  | .generation e => e.causes
  | .packaging e => (e.cause?.map Cause.disk).toList

/-- A text whose lines behind the first are indented. -/
def indentLines (s : String) : String :=
  "\n    ".intercalate ((Text.splitAt (· == '\n') s.toList).map String.ofList)

/-- The text that is shown to the user. -/
def report (f : Failure) : String :=
  let causes :=
    match f.causes with
    | [] => ""
    | list => "\n\nCaused by:" ++
        String.join (list.map fun c => "\n    " ++ indentLines c.message)
  "Error: " ++ f.message ++ causes ++ "\n"

end Failure

end Scaffold

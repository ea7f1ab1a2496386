import Scaffold.Failure

/-!
# A run of the generator

Settings are loaded from a file and checked: the diagram has to be a file that is there, the package
has to be a package name, and the artifact must not be blank. The checks are made in this order.

A run reads the diagram, brings it into its normal form, checks it, generates the project in memory
and writes it. Nothing is written before everything is generated. What the diagram says and cannot
be followed is only warned of: relationships with an unknown end, and classes without a key.

## Main definitions

* `Settings.load`, `Settings.save`: the settings in a file.
* `runRendering`, `run`: a run with some renderer, and with the built-in one.
-/

namespace Scaffold

variable {m : Type → Type} [Monad m] [Storage m]

/-- A disk operation whose failure has a meaning for the user. -/
def orFail {α : Type} (explain : DiskError → Failure) (action : m (Except DiskError α)) :
    ExceptT Failure m α :=
  ExceptT.mk do return (← action).mapError explain

namespace Settings

/-- What is wrong with settings whose diagram is there or not. -/
def fault? (s : Settings) (diagramIsThere : Bool) : Option Failure :=
  if !diagramIsThere then some (.missingDiagram s.schemaFile)
  else if !Naming.isPackage s.parameters.basePackage then
    some (.invalidPackage s.parameters.basePackage)
  else if Text.trim s.parameters.artifactId = "" then some .blankArtifact
  else none

/-- The settings in a file. -/
def load (path : Path) : ExceptT Failure m Settings := do
  let text ← orFail (.readingSettings path) (Storage.readText path)
  match Settings.parse text with
  | .error e => throw (.parsingSettings path e)
  | .ok s =>
    match s.fault? (← ExceptT.lift (Storage.isFile s.schemaFile)) with
    | some f => throw f
    | none => return s

/-- Settings are written to a file. -/
def save (s : Settings) (path : Path) : ExceptT Failure m Unit :=
  orFail (.writingSettings path) (Storage.writeText path s.text)

end Settings

/-! ### Runs -/

variable [Console m]

/-- A line is printed, if lines are wanted. -/
def printLine (wanted : Bool) (line : String) : ExceptT Failure m Unit :=
  if wanted then ExceptT.lift (Console.print (line ++ "\n")) else pure ()

/-- A line of warning is printed. -/
def warnLine (line : String) : ExceptT Failure m Unit :=
  ExceptT.lift (Console.warn (line ++ "\n"))

/-- The warning for a relationship with an unknown end. -/
def danglingWarning (r : Relationship) : String :=
  "Warning: " ++ r.kind.text ++ " relationship " ++ r.sourceId ++ " -> " ++ r.targetId ++
    " references an unknown class, skipping"

/-- The warning for a class without a key. -/
def keylessWarning (c : ClassBox) : String :=
  "Warning: class '" ++ c.name ++
    "' has no numeric or textual attribute, no primary key inferred"

/-- The diagram in a file. -/
def loadDiagram (path : Path) : ExceptT Failure m Diagram := do
  let text ← orFail (.readingDiagram path) (Storage.readText path)
  match Diagram.parse text with
  | .ok d => return d
  | .error e => throw (.parsingDiagram path e)

/-- A project is written where the settings want it. -/
def package (s : Settings) (project : Project) : ExceptT PackagingError m Unit :=
  if s.archive then
    packArchive s.overwrite s.parameters.artifactId project s.archiveFile
  else
    packDirectory s.overwrite project s.outputDir

/-- A run with some settings and a renderer. A verbose run says what it does. -/
def runRendering (render : Renderer) (verbose : Bool) (s : Settings) : ExceptT Failure m Unit := do
  let d := (← loadDiagram s.schemaFile).normalize
  match d.validate with
  | .error e => throw (.invalidDiagram s.schemaFile e)
  | .ok () => pure ()
  printLine verbose
    ("Loaded " ++ Nat.repr d.classes.length ++ " classes and " ++
      Nat.repr d.relationships.length ++ " relationships from " ++ s.schemaFile.text)
  (Index.ofDiagram d).dangling.forM fun r => warnLine (danglingWarning r)
  (keylessClasses d s.parameters render).forM fun c => warnLine (keylessWarning c)
  match generate d s.parameters render with
  | .error e => throw (.generation e)
  | .ok project =>
    project.files.forM fun f => printLine verbose ("  " ++ f.path.text)
    ExceptT.mk do return (← (package s project).run).mapError Failure.packaging
    printLine verbose
      ("Generated " ++ Nat.repr project.size ++ " files into " ++ s.destination.text)

/-- A run with the built-in renderer. -/
def run (verbose : Bool) (s : Settings) : ExceptT Failure m Unit :=
  runRendering builtinRenderer verbose s

end Scaffold

import Scaffold.Disk.Storage
import Scaffold.Project.Files

/-!
# Packaging

A project is written either as a directory or as an archive. Both are built beside the place where
they belong, under the name of that place between a dot and `.partial`, and moved there when they
are complete. What cannot be completed is discarded again.

The files of a project are written one after the other into a directory, with the directories that
lead to them. Only when all of them are there an old output is removed and the new one is moved into
its place. An archive holds a root folder and, under it, the files of a project in their order.
Names in an archive are written with slashes, so a backslash in a path becomes one.

## Main definitions

* `PackagingError`: why a project cannot be written.
* `unfinishedPath?`: the place beside an output where it is built.
* `dropUnfinished`: an incomplete output is removed.
* `packDirectory`, `packArchive`: a project is written as a directory or as an archive.
-/

namespace Scaffold

/-- Why a project cannot be written. -/
inductive PackagingError where
  | directoryExists (path : Path)
  | archiveExists (path : Path)
  | noFileName (path : Path)
  | removingUnfinished (path : Path) (cause : DiskError)
  | creatingDirectory (path : Path) (cause : DiskError)
  | writingFile (path : Path) (cause : DiskError)
  | creatingArchive (path : Path) (cause : DiskError)
  | removingDirectory (path : Path) (cause : DiskError)
  | removingArchive (path : Path) (cause : DiskError)
  | moving (source target : Path) (cause : DiskError)
  deriving DecidableEq, Repr

/-- The message of an error. -/
def PackagingError.message : PackagingError → String
  | .directoryExists p =>
    "Output directory already exists: " ++ p.text ++ ". Set output.overwrite to replace it."
  | .archiveExists p =>
    "Output archive already exists: " ++ p.text ++ ". Set output.overwrite to replace it."
  | .noFileName p => "Invalid output path: " ++ p.text
  | .removingUnfinished p _ => "Failed to remove stale staging directory: " ++ p.text
  | .creatingDirectory p _ => "Failed to create directory: " ++ p.text
  | .writingFile p _ => "Failed to write file: " ++ p.text
  | .creatingArchive p _ => "Failed to create archive: " ++ p.text
  | .removingDirectory p _ => "Failed to remove output directory: " ++ p.text
  | .removingArchive p _ => "Failed to remove output archive: " ++ p.text
  | .moving source target _ => "Failed to move " ++ source.text ++ " into " ++ target.text

/-- The disk error behind an error. -/
def PackagingError.cause? : PackagingError → Option DiskError
  | .directoryExists _ | .archiveExists _ | .noFileName _ => none
  | .removingUnfinished _ e | .creatingDirectory _ e | .writingFile _ e | .creatingArchive _ e
  | .removingDirectory _ e | .removingArchive _ e | .moving _ _ e => some e

/-- The place beside an output where it is built. A path that does not end in a name has none. -/
def unfinishedPath? (target : Path) : Option Path :=
  target.fileName?.map fun name => target.withFileName ("." ++ name ++ ".partial")

/-- The place beside an output where it is built. -/
def unfinishedPath (target : Path) : Except PackagingError Path :=
  match unfinishedPath? target with
  | some unfinished => .ok unfinished
  | none => .error (.noFileName target)

variable {m : Type → Type} [Monad m] [Storage m] [Console m]

/-- A disk operation whose failure has a meaning for packaging. -/
def attempt {α : Type} (explain : DiskError → PackagingError) (action : m (Except DiskError α)) :
    ExceptT PackagingError m α :=
  ExceptT.mk do return (← action).mapError explain

/-- Whether there is anything at a path. -/
def isThere (p : Path) : ExceptT PackagingError m Bool :=
  ExceptT.lift (Storage.exists? p)

/-- An incomplete output is removed. If that fails there is a warning. -/
def dropUnfinished (unfinished : Path) : m Unit := do
  let result ← match ← Storage.stat unfinished with
    | none => pure (.ok ())
    | some .directory => Storage.removeTree unfinished
    | some .file => Storage.removeFile unfinished
  match result with
  | .ok () => return ()
  | .error e =>
    Console.warn
      ("Warning: failed to remove staging output " ++ unfinished.text ++ ": " ++ e.message ++ "\n")

/-- An output is built, and discarded if that fails. -/
def orDrop (unfinished : Path) (build : ExceptT PackagingError m Unit) :
    ExceptT PackagingError m Unit :=
  ExceptT.mk do
    match ← build.run with
    | .ok () => return .ok ()
    | .error e =>
      dropUnfinished unfinished
      return .error e

/-! ### Directories -/

/-- A file is written below a root, with the directories that lead to it. -/
def placeFile (root : Path) (file : ProjectFile) : ExceptT PackagingError m Unit := do
  let target := root.join file.path
  match target.parent? with
  | none => pure ()
  | some parent => attempt (.creatingDirectory parent) (Storage.createDirectories parent)
  attempt (.writingFile target) (Storage.writeText target file.content)

/-- The files of a project are written below a root. -/
def fillDirectory (root : Path) (project : Project) : ExceptT PackagingError m Unit := do
  attempt (.creatingDirectory root) (Storage.createDirectories root)
  project.files.forM (placeFile root)

/-- A project is written as a directory. An output that is there is replaced only if that is
allowed. -/
def packDirectory (overwrite : Bool) (project : Project) (output : Path) :
    ExceptT PackagingError m Unit := do
  if (← isThere output) && !overwrite then
    throw (.directoryExists output)
  let unfinished ← ExceptT.mk (pure (unfinishedPath output))
  if ← isThere unfinished then
    attempt (.removingUnfinished unfinished) (Storage.removeTree unfinished)
  orDrop unfinished (fillDirectory unfinished project)
  if ← isThere output then
    attempt (.removingDirectory output) (Storage.removeTree output)
  attempt (.moving unfinished output) (Storage.rename unfinished output)

/-! ### Archives -/

/-- A text with slashes in place of its backslashes. -/
def withSlashes (s : String) : String :=
  String.ofList (s.toList.map fun c => if c = '\\' then '/' else c)

/-- The entry of a file under a root folder. -/
def ProjectFile.toEntry (root : String) (file : ProjectFile) : ArchiveEntry :=
  ⟨root ++ "/" ++ withSlashes file.path.text, file.content⟩

/-- The entries of a project under a root folder, that of the folder itself first. -/
def Project.toEntries (root : String) (project : Project) : List ArchiveEntry :=
  ⟨root ++ "/", ""⟩ :: project.files.map (ProjectFile.toEntry root)

/-- A project is written as an archive. An output that is there is replaced only if that is
allowed. -/
def packArchive (overwrite : Bool) (root : String) (project : Project) (output : Path) :
    ExceptT PackagingError m Unit := do
  if (← isThere output) && !overwrite then
    throw (.archiveExists output)
  match output.parent? with
  | none => pure ()
  | some parent =>
    if parent.text != "" then
      attempt (.creatingDirectory parent) (Storage.createDirectories parent)
  let unfinished ← ExceptT.mk (pure (unfinishedPath output))
  orDrop unfinished
    (attempt (.creatingArchive unfinished)
      (Storage.writeArchive unfinished (project.toEntries root)))
  if ← isThere output then
    attempt (.removingArchive output) (Storage.removeFile output)
  attempt (.moving unfinished output) (Storage.rename unfinished output)

end Scaffold

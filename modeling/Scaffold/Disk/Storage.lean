import Scaffold.Disk.FileSystem

/-!
# Storage

What generation needs of the place where files are kept and of the console, as two interfaces, so
that the same rules run on the disk of a computer and on a file system that is a value. The value
keeps what was printed beside the files.

## Main definitions

* `Storage`: the operations on files and directories.
* `Console`: printing and warning.
* `Session`: a file system with what was printed.
* `createDirectories`: a directory with the directories that lead to it.
-/

namespace Scaffold

/-- What a path may lead to. -/
inductive EntryKind where
  | file
  | directory
  deriving DecidableEq, Repr

/-- The operations on files and directories. -/
class Storage (m : Type → Type) where
  /-- What a path leads to, if anything. -/
  stat : Path → m (Option EntryKind)
  /-- The text of a file. -/
  readText : Path → m (Except DiskError String)
  /-- A new directory is made. -/
  createDirectory : Path → m (Except DiskError Unit)
  /-- A file is written, in place of one that was there. -/
  writeText : Path → String → m (Except DiskError Unit)
  /-- An archive is written, in place of a file that was there. -/
  writeArchive : Path → List ArchiveEntry → m (Except DiskError Unit)
  /-- A directory is removed with everything in it. -/
  removeTree : Path → m (Except DiskError Unit)
  /-- A file is removed. -/
  removeFile : Path → m (Except DiskError Unit)
  /-- A file or a directory is moved. -/
  rename : Path → Path → m (Except DiskError Unit)

/-- Output to the user. -/
class Console (m : Type → Type) where
  /-- A text is printed. -/
  print : String → m Unit
  /-- A warning is printed apart from the output. -/
  warn : String → m Unit

/-- A file system with what was printed so far. -/
structure Session where
  files : FileSystem
  output : String
  warnings : String
  deriving DecidableEq, Repr

namespace Session

/-- A session in which nothing was printed. -/
def ofFiles (files : FileSystem) : Session := ⟨files, "", ""⟩

/-- An operation that may change the files. -/
def change (f : FileSystem → Except DiskError FileSystem) :
    StateM Session (Except DiskError Unit) :=
  fun s =>
    match f s.files with
    | .ok files => (.ok (), { s with files := files })
    | .error e => (.error e, s)

end Session

instance : Storage (StateM Session) where
  stat p := fun s =>
    ((s.files.stat? p).map fun
      | .directory => .directory
      | .file _ => .file, s)
  readText p := fun s => (s.files.readText p, s)
  createDirectory p := Session.change (·.createDirectory p)
  writeText p text := Session.change (·.writeFile p (.text text))
  writeArchive p entries := Session.change (·.writeFile p (.archive entries))
  removeTree p := fun s =>
    let (result, files) := s.files.removeTree p
    (result, { s with files := files })
  removeFile p := Session.change (·.removeFile p)
  rename source target := Session.change (·.rename source target)

instance : Console (StateM Session) where
  print text := modify fun s => { s with output := s.output ++ text }
  warn text := modify fun s => { s with warnings := s.warnings ++ text }

namespace Storage

variable {m : Type → Type} [Monad m] [Storage m]

/-- Whether there is anything at a path. -/
def exists? (p : Path) : m Bool :=
  return (← stat p).isSome

/-- Whether there is a directory at a path. -/
def isDirectory (p : Path) : m Bool :=
  return (← stat p) == some .directory

/-- Whether there is a file at a path. -/
def isFile (p : Path) : m Bool :=
  return (← stat p) == some .file

/-- A directory is made unless it is there. -/
def ensureDirectory (p : Path) : m (Except DiskError Unit) := do
  match ← createDirectory p with
  | .ok () => return .ok ()
  | .error e => return if ← isDirectory p then .ok () else .error e

/-- A directory is made with those that lead to it, of which at most `depth` are missing. Nothing is
made for the empty path. -/
def createDirectoriesWithin : (depth : Nat) → Path → m (Except DiskError Unit)
  | 0, p => ensureDirectory p
  | depth + 1, p =>
    if p.text = "" then
      return .ok ()
    else do
      match ← ensureDirectory p with
      | .error .notFound =>
        match p.parent? with
        | none => return .error (.other "failed to create whole tree")
        | some parent =>
          match ← createDirectoriesWithin depth parent with
          | .error e => return .error e
          | .ok () => ensureDirectory p
      | result => return result

/-- A directory is made with those that lead to it. -/
def createDirectories (p : Path) : m (Except DiskError Unit) :=
  createDirectoriesWithin (p.components.length + 1) p

end Storage

end Scaffold

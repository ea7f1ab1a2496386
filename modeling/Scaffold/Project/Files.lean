import Scaffold.Path.Basic

/-!
# The files of a project

A generated project is a list of files in the order in which they were generated. A file lies inside
the root of the project, at a relative path that never goes up, and no two files spell the same
path.

## Main definitions

* `Project`: the files of a project.
* `Project.add`: the project with one more file, or what is wrong with its path.
* `Project.get?`: the content of the file at a path.
-/

namespace Scaffold

/-- A generated file. -/
structure ProjectFile where
  path : Path
  content : String
  deriving DecidableEq, Repr

/-- Why a file cannot be added to a project. -/
inductive PlacementError where
  | outside (path : Path)
  | duplicate (path : Path)
  deriving DecidableEq, Repr

/-- The message of an error. -/
def PlacementError.message : PlacementError → String
  | .outside path => "Invalid generated file path: " ++ path.text
  | .duplicate path => "Duplicate generated file: " ++ path.text

/-- Whether a component leads to a place inside the directory that it starts from. -/
def Component.isInner : Component → Bool
  | .name _ | .current => true
  | .root | .parent => false

/-- Whether a path is that of a file inside the directory that it starts from. -/
def Path.isInner (p : Path) : Bool :=
  p.text != "" && p.components.all Component.isInner

/-- The files of a project, in the order of their generation. -/
structure Project where
  files : List ProjectFile
  deriving DecidableEq, Repr

namespace Project

/-- The project without files. -/
def empty : Project := ⟨[]⟩

/-- The file that spells the same path. -/
def find? (t : Project) (path : Path) : Option ProjectFile :=
  t.files.find? fun f => f.path.same path

/-- The content of the file that spells the same path. -/
def get? (t : Project) (path : Path) : Option String :=
  (t.find? path).map ProjectFile.content

/-- The number of files. -/
def size (t : Project) : Nat := t.files.length

/-- The project with one more file, unless its path leads outside or is taken. -/
def add (t : Project) (path : Path) (content : String) : Except PlacementError Project :=
  if !path.isInner then .error (.outside path)
  else if (t.find? path).isSome then .error (.duplicate path)
  else .ok ⟨t.files ++ [⟨path, content⟩]⟩

/-- The project of a list of files, added in order. -/
def ofFiles (files : List ProjectFile) : Except PlacementError Project :=
  files.foldlM (fun t f => t.add f.path f.content) empty

end Project

end Scaffold

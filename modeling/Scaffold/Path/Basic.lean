import Scaffold.Text.Basic

/-!
# Paths

A path is a text with slashes in it. Two texts may spell the same path: repeated slashes, a trailing
slash and dots that stand for the current directory carry no meaning, except that a dot at the very
start of a relative path does. What a path means is its list of components; how it was spelled stays
visible, because paths are printed as they were given.

## Main definitions

* `Path`, `Path.components`: a path and its meaning.
* `Path.same`: whether two texts spell the same path.
* `Path.join`, `Path.parent?`, `Path.fileName?`, `Path.withFileName`: building and taking apart.
-/

namespace Scaffold

/-- A path as it is spelled. -/
structure Path where
  text : String
  deriving DecidableEq, Repr

/-- A step of a path. -/
inductive Component where
  | root
  | current
  | parent
  | name (s : String)
  deriving DecidableEq, Repr

namespace Path

/-- Whether a character separates the components of a path. -/
def isSlash (c : Char) : Bool := c == '/'

/-- The component that a piece between two slashes stands for, if any; `.` counts only at the start
of a path. -/
def componentOf? (piece : List Char) : Option Component :=
  if piece = [] ∨ piece = ['.'] then none
  else if piece = ['.', '.'] then some .parent
  else some (.name (String.ofList piece))

/-- The components of a spelled path. -/
def componentsOf (s : List Char) : List Component :=
  match Text.splitAt isSlash s with
  | [] => []
  | piece :: pieces =>
    let start : List Component :=
      if s.head? = some '/' then [.root]
      else if piece = ['.'] then [.current]
      else (componentOf? piece).toList
    start ++ pieces.filterMap componentOf?

/-- The components of a path. -/
def components (p : Path) : List Component :=
  componentsOf p.text.toList

/-- Whether two texts spell the same path. -/
def same (p q : Path) : Bool :=
  p.components == q.components

/-- Whether a path starts at the root. -/
def isAbsolute (p : Path) : Bool :=
  p.text.toList.head? == some '/'

/-- The path `q` as seen from `p`: an absolute `q` stands for itself, and otherwise a slash is put
between the two unless there is one or `p` is empty. -/
def join (p q : Path) : Path :=
  if q.isAbsolute then q
  else if p.text = "" ∨ p.text.toList.getLast? = some '/' then ⟨p.text ++ q.text⟩
  else ⟨p.text ++ "/" ++ q.text⟩

/-- A path given from its end, without the slashes and dots that carry no meaning there. The slash
of the root and a dot at the start of a relative path stay. -/
def trimEnd : List Char → List Char
  | [] => []
  | ['/'] => ['/']
  | '/' :: rest => trimEnd rest
  | '.' :: '/' :: rest => trimEnd ('/' :: rest)
  | s => s
termination_by s => s.length

/-- The spelling of everything in front of the last component, given and returned from its end. -/
def parentFromEnd (s : List Char) : List Char :=
  trimEnd ((trimEnd s).dropWhile fun c => !isSlash c)

/-- The path without its last component; the root and the empty path have none to lose. -/
def parent? (p : Path) : Option Path :=
  match p.components.getLast? with
  | none => none
  | some .root => none
  | some _ => some ⟨String.ofList (parentFromEnd p.text.toList.reverse).reverse⟩

/-- The last component, if it is a name. -/
def fileName? (p : Path) : Option String :=
  match p.components.getLast? with
  | some (.name s) => some s
  | _ => none

/-- The path with its last component, a name, replaced by another name. -/
def withFileName (p : Path) (name : String) : Path :=
  match p.fileName?, p.parent? with
  | some _, some parent => parent.join ⟨name⟩
  | _, _ => p.join ⟨name⟩

end Path

end Scaffold

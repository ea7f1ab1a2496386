import Scaffold.Path.Basic

/-!
# File systems

A file system says for every location whether there is a directory or a file. A location is the list
of names that leads there from the root, which is always a directory. Paths are followed one segment
at a time, so that `a/..` is only a directory if `a` is one; a slash behind the last segment asks
for a directory. An operation that is refused says why; the numbers of the operating system are part
of the messages.

## Main definitions

* `DiskError`: why an operation is refused.
* `FileSystem`, `FileSystem.at?`: what is at a location.
* `FileSystem.locate`: the location that a path leads to.
* `FileSystem.stat?`, `readText`, `createDirectory`, `writeFile`, `removeTree`, `removeFile`,
  `rename`: the operations.
* `FileSystem.listing`: everything below a location.
-/

namespace Scaffold

/-! ### Errors -/

/-- Why an operation on files and directories is refused. -/
inductive DiskError where
  | notFound
  | busy
  | exists
  | notDirectory
  | isDirectory
  | invalid
  | nameTooLong
  | notEmpty
  | notText
  | nulInName
  | other (text : String)
  deriving DecidableEq, Repr

/-- A message of the operating system with its number. -/
def systemMessage (text : String) (number : Nat) : String :=
  text ++ " (os error " ++ Nat.repr number ++ ")"

/-- The message of an error. -/
def DiskError.message : DiskError → String
  | .notFound => systemMessage "No such file or directory" 2
  | .busy => systemMessage "Device or resource busy" 16
  | .exists => systemMessage "File exists" 17
  | .notDirectory => systemMessage "Not a directory" 20
  | .isDirectory => systemMessage "Is a directory" 21
  | .invalid => systemMessage "Invalid argument" 22
  | .nameTooLong => systemMessage "File name too long" 36
  | .notEmpty => systemMessage "Directory not empty" 39
  | .notText => "stream did not contain valid UTF-8"
  | .nulInName => "file name contained an unexpected NUL byte"
  | .other text => text

/-! ### Files and directories -/

/-- A file in an archive; the name of a directory ends in a slash. -/
structure ArchiveEntry where
  name : String
  content : String
  deriving DecidableEq, Repr

/-- The content of a file. -/
inductive Content where
  | text (s : String)
  | archive (entries : List ArchiveEntry)
  | binary (bytes : List UInt8)
  deriving DecidableEq, Repr

/-- What is at a location. -/
inductive Entry where
  | directory
  | file (content : Content)
  deriving DecidableEq, Repr

/-- The names that lead to a place from the root. -/
abbrev Location := List String

/-- Files and directories below the root, and the directory from which relative paths start. -/
structure FileSystem where
  entries : List (Location × Entry)
  workingDirectory : Location
  deriving DecidableEq, Repr

namespace FileSystem

/-! ### Locations -/

/-- What is at a location. -/
def at? (fs : FileSystem) (l : Location) : Option Entry :=
  if l = [] then some .directory else fs.entries.lookup l

/-- The file system with an entry at a location, in place of what was there. -/
def put (fs : FileSystem) (l : Location) (e : Entry) : FileSystem :=
  if (fs.entries.lookup l).isSome then
    { fs with entries := fs.entries.map fun (k, old) => (k, if k = l then e else old) }
  else
    { fs with entries := fs.entries ++ [(l, e)] }

/-- The file system without anything below a location. -/
def clear (fs : FileSystem) (l : Location) : FileSystem :=
  { fs with entries := fs.entries.filter fun (k, _) => k == l || !l.isPrefixOf k }

/-- The file system without a location and everything below it. -/
def erase (fs : FileSystem) (l : Location) : FileSystem :=
  { fs with entries := fs.entries.filter fun (k, _) => !l.isPrefixOf k }

/-- The file system with a location and everything below it moved to another location, in place of
what was there. -/
def move (fs : FileSystem) (source target : Location) : FileSystem :=
  let free := fs.erase target
  { fs with entries := free.entries.map fun (k, e) =>
      (if source.isPrefixOf k then target ++ k.drop source.length else k, e) }

/-- Whether there is nothing below a location. -/
def isEmptyBelow (fs : FileSystem) (l : Location) : Bool :=
  fs.entries.all fun (k, _) => k == l || !l.isPrefixOf k

/-! ### Paths -/

/-- The longest name, in bytes. -/
def maxNameBytes : Nat := 255

/-- The longest path, in bytes. -/
def maxPathBytes : Nat := 4095

/-- The segments of a path. -/
def segments (p : Path) : List String :=
  (Text.fields Path.isSlash p.text.toList).map String.ofList

/-- Whether a path asks for a directory by a slash at its end. -/
def asksForDirectory (p : Path) : Bool :=
  p.text.toList.getLast? == some '/'

/-- Whether a segment is a name, and not one of those that every directory has. -/
def isName (segment : String) : Bool :=
  segment != "." && segment != ".."

/-- The location one segment further than a location, which has to be a directory. The working
directory still leads to its parent after it was removed. -/
def enter (fs : FileSystem) (l : Location) (segment : String) : Except DiskError Location :=
  match fs.at? l with
  | none =>
    if l = fs.workingDirectory ∧ segment = ".." then .ok l.dropLast else .error .notFound
  | some (.file _) => .error .notDirectory
  | some .directory =>
    if segment = "." then .ok l
    else if segment = ".." then .ok l.dropLast
    else if maxNameBytes < segment.utf8ByteSize then .error .nameTooLong
    else .ok (l ++ [segment])

/-- Where a path starts. -/
def start (fs : FileSystem) (p : Path) : Location :=
  if p.isAbsolute then [] else fs.workingDirectory

/-- The location that a path leads to. Everything in front of its last segment has to be there. -/
def locate (fs : FileSystem) (p : Path) : Except DiskError Location :=
  if p.text.toList.any (· == '\x00') then .error .nulInName
  else if p.text = "" then .error .notFound
  else if maxPathBytes < p.text.utf8ByteSize then .error .nameTooLong
  else (segments p).foldlM fs.enter (fs.start p)

/-- The last segment of a path, if it is a name. -/
def lastName? (p : Path) : Option String :=
  (segments p).getLast?.filter isName

/-- What a path leads to, with its location. -/
def look (fs : FileSystem) (p : Path) : Except DiskError (Location × Entry) :=
  match fs.locate p with
  | .error e => .error e
  | .ok l =>
    match fs.at? l with
    | none => .error .notFound
    | some .directory => .ok (l, .directory)
    | some (.file content) =>
      if asksForDirectory p then .error .notDirectory else .ok (l, .file content)

/-! ### Operations -/

/-- What a path leads to, if anything. -/
def stat? (fs : FileSystem) (p : Path) : Option Entry :=
  match fs.look p with
  | .ok (_, e) => some e
  | .error _ => none

/-- The text of a file. -/
def readText (fs : FileSystem) (p : Path) : Except DiskError String :=
  match fs.look p with
  | .error e => .error e
  | .ok (_, .directory) => .error .isDirectory
  | .ok (_, .file (.text s)) => .ok s
  | .ok (_, .file _) => .error .notText

/-- A new directory. -/
def createDirectory (fs : FileSystem) (p : Path) : Except DiskError FileSystem :=
  match fs.locate p with
  | .error e => .error e
  | .ok l => if (fs.at? l).isSome then .error .exists else .ok (fs.put l .directory)

/-- A file with a content, in place of a file that was there. -/
def writeFile (fs : FileSystem) (p : Path) (content : Content) : Except DiskError FileSystem :=
  match fs.locate p with
  | .error e => .error e
  | .ok l =>
    if asksForDirectory p || fs.at? l = some .directory then .error .isDirectory
    else .ok (fs.put l (.file content))

/-- A directory is removed with everything in it. One that is not named by the path loses what is in
it and stays. The second part is the file system afterwards. -/
def removeTree (fs : FileSystem) (p : Path) : Except DiskError Unit × FileSystem :=
  match fs.look p with
  | .error e => (.error e, fs)
  | .ok (_, .file _) => (.error .notDirectory, fs)
  | .ok (l, .directory) =>
    match (segments p).getLast? with
    | none => (.error .busy, fs.clear l)
    | some "." => (.error .invalid, fs.clear l)
    | some ".." => (.error .notEmpty, fs.clear l)
    | some _ => (.ok (), fs.erase l)

/-- A file is removed. -/
def removeFile (fs : FileSystem) (p : Path) : Except DiskError FileSystem :=
  match fs.look p with
  | .error e => .error e
  | .ok (_, .directory) => .error .isDirectory
  | .ok (l, .file _) => .ok (fs.erase l)

/-- A file or a directory is moved to another path, in place of a file or an empty directory that
was there. -/
def rename (fs : FileSystem) (source target : Path) : Except DiskError FileSystem :=
  match fs.look source, fs.locate target with
  | .error e, _ => .error e
  | _, .error e => .error e
  | .ok (origin, entry), .ok goal =>
    if (lastName? source).isNone || (lastName? target).isNone then .error .busy
    else if origin = goal then .ok fs
    else if origin.isPrefixOf goal then .error .invalid
    else
      match entry, fs.at? goal with
      | .directory, none => .ok (fs.move origin goal)
      | .directory, some (.file _) => .error .notDirectory
      | .directory, some .directory =>
        if fs.isEmptyBelow goal then .ok (fs.move origin goal) else .error .notEmpty
      | .file _, some .directory => .error .isDirectory
      | .file _, _ =>
        if asksForDirectory target then .error .notDirectory else .ok (fs.move origin goal)

/-! ### Listings -/

/-- Everything below a location with its path from there, sorted by the paths. -/
def listing (fs : FileSystem) (l : Location) : List (String × Entry) :=
  let below := fs.entries.filterMap fun (k, e) =>
    if l.isPrefixOf k && k != l then some ("/".intercalate (k.drop l.length), e) else none
  below.mergeSort fun a b => decide (a.1 ≤ b.1)

end FileSystem

end Scaffold

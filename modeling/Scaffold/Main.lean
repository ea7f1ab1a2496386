import Scaffold.Archive.Encoding
import Scaffold.Command.Run

/-!
# The program

The disk and the console of the computer as the places that the commands work on, and the entry
point.
-/

namespace Scaffold

/-- What an error of the system says about a file. -/
def diskErrorOf : IO.Error → DiskError
  | .noFileOrDirectory .. => .notFound
  | .alreadyExists .. => .exists
  | e => .other (toString e)

/-- An action on a path, which must be there and must not hold a character that ends it. -/
def onPath {α : Type} (p : Path) (action : IO α) : IO (Except DiskError α) :=
  if p.text = "" then return .error .notFound
  else if p.text.toList.contains '\x00' then return .error .nulInName
  else try return .ok (← action) catch e => return .error (diskErrorOf e)

instance : Storage IO where
  stat p := do
    match ← onPath p do ((← IO.currentDir) / p.text).metadata with
    | .error _ => return none
    | .ok data => return some (if data.type matches .dir then .directory else .file)
  readText p := do
    match ← onPath p (IO.FS.readBinFile p.text) with
    | .error e => return .error e
    | .ok bytes =>
      match String.fromUTF8? bytes with
      | some s => return .ok s
      | none => return .error .notText
  createDirectory p := onPath p (IO.FS.createDir p.text)
  writeText p text := onPath p (IO.FS.writeFile p.text text)
  writeArchive p entries :=
    onPath p (IO.FS.writeBinFile p.text ⟨(Archive.encode entries).toArray⟩)
  removeTree p := onPath p (IO.FS.removeDirAll p.text)
  removeFile p := onPath p (IO.FS.removeFile p.text)
  rename source target := onPath source (IO.FS.rename source.text target.text)

instance : Console IO where
  print text := do
    IO.print text
    (← IO.getStdout).flush
  warn text := IO.eprint text

end Scaffold

/-- The program. -/
def main (arguments : List String) : IO UInt32 := do
  return UInt32.ofNat (← Scaffold.runProgram arguments)

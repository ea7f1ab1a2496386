import Scaffold.Archive.Encoding
import Scaffold.Archive.Inflate

/-!
# Reading archives

An archive is read from its end: the record for the archive as a whole tells where the directory is,
and each record of the directory where the header of an entry is. Something may stand in front of
the archive, and all places count from where the archive starts. An entry is stored as it is or
compressed, and has to agree with its checksum. Directories have no content. A name is in a code
page of 256 characters unless it is marked as Unicode.

## Main definitions

* `DirectoryRecord`: what the directory tells of an entry.
* `decode?`: the entries of an archive, in the order of its directory.
* `Content.entries?`: the entries of a file, if it is an archive.
-/

namespace Scaffold

/-! ### Text in a code page -/

namespace Text

/-- The characters of the upper half, in order. -/
def upperCodePage : List Char :=
  ("ÇüéâäàåçêëèïîìÄÅÉæÆôöòûùÿÖÜ¢£¥₧ƒáíóúñÑªº¿⌐¬½¼¡«»░▒▓│┤╡╢╖╕╣║╗╝╜╛┐└┴┬├─┼╞╟╚╔╩╦╠═" ++
    "╬╧╨╤╥╙╘╒╓╫╪┘┌█▄▌▐▀αßΓπΣσµτΦΘΩδ∞φε∩≡±≥≤⌠⌡÷≈°∙·√ⁿ²■\u00A0").toList

/-- The character of a byte. -/
def codePageChar (b : UInt8) : Char :=
  if b < 128 then Char.ofNat b.toNat else upperCodePage.getD (b.toNat - 128) '\uFFFD'

/-- A text from its bytes. -/
def ofCodePage (bytes : List UInt8) : String :=
  String.ofList (bytes.map codePageChar)

end Text

namespace Archive

/-! ### Numbers and bytes -/

/-- A number of some bytes, the lowest first, and the bytes behind it. -/
def readNumber : (bytes : Nat) → List UInt8 → Option (Nat × List UInt8)
  | 0, s => some (0, s)
  | _ + 1, [] => none
  | bytes + 1, b :: s => (readNumber bytes s).map fun (n, rest) => (b.toNat + 256 * n, rest)

/-- Some bytes, and those behind them. -/
def readBytes (count : Nat) (s : List UInt8) : Option (List UInt8 × List UInt8) :=
  if count ≤ s.length then some (s.take count, s.drop count) else none

/-- The bytes behind a mark. -/
def readMark (mark : Nat) (s : List UInt8) : Option (List UInt8) := do
  let (n, s) ← readNumber 4 s
  guard (n = mark)
  return s

/-! ### The record for the archive as a whole -/

/-- Where the directory of an archive is. -/
structure DirectoryPlace where
  count : Nat
  length : Nat
  offset : Nat
  deriving DecidableEq, Repr

/-- The number of bytes of the record for the archive as a whole. -/
def endRecordLength : Nat := 22

/-- The longest comment behind that record. -/
def maxComment : Nat := 65535

/-- Whether the record for an archive as a whole may start some bytes. -/
def startsEndRecord (s : List UInt8) : Bool :=
  (littleEndian 4 0x06054B50).isPrefixOf s && endRecordLength ≤ s.length

/-- The end of some bytes from the last place on where that record may start, or what was found in
front of them. -/
def lastEnd? (found : Option (List UInt8)) : List UInt8 → Option (List UInt8)
  | [] => found
  | b :: s => lastEnd? (if startsEndRecord (b :: s) then some (b :: s) else found) s

/-- The record for the archive as a whole. -/
def readEndRecord (s : List UInt8) : Option DirectoryPlace := do
  let s ← readMark 0x06054B50 s
  let (disk, s) ← readNumber 2 s
  let (directoryDisk, s) ← readNumber 2 s
  let (count, s) ← readNumber 2 s
  let (_, s) ← readNumber 2 s
  let (length, s) ← readNumber 4 s
  let (offset, s) ← readNumber 4 s
  let (comment, s) ← readNumber 2 s
  guard (disk = directoryDisk && comment ≤ s.length)
  return ⟨count, length, offset⟩

/-! ### The directory -/

/-- What the directory tells of an entry. -/
structure DirectoryRecord where
  marks : Nat
  method : Nat
  checksum : Nat
  length : Nat
  offset : Nat
  name : List UInt8
  deriving DecidableEq, Repr

namespace DirectoryRecord

/-- The record at the start of some bytes, and the bytes behind it. -/
def read (s : List UInt8) : Option (DirectoryRecord × List UInt8) := do
  let s ← readMark 0x02014B50 s
  let (_, s) ← readNumber 4 s
  let (marks, s) ← readNumber 2 s
  let (method, s) ← readNumber 2 s
  let (_, s) ← readNumber 4 s
  let (checksum, s) ← readNumber 4 s
  let (length, s) ← readNumber 4 s
  let (_, s) ← readNumber 4 s
  let (nameLength, s) ← readNumber 2 s
  let (extraLength, s) ← readNumber 2 s
  let (commentLength, s) ← readNumber 2 s
  let (_, s) ← readNumber 4 s
  let (_, s) ← readNumber 4 s
  let (offset, s) ← readNumber 4 s
  let (name, s) ← readBytes nameLength s
  let (_, s) ← readBytes (extraLength + commentLength) s
  return (⟨marks, method, checksum, length, offset, name⟩, s)

/-- Some records. -/
def readAll : (count : Nat) → List UInt8 → Option (List DirectoryRecord)
  | 0, _ => some []
  | count + 1, s => do
    let (r, s) ← read s
    let rest ← readAll count s
    return r :: rest

/-- Whether an entry is encrypted. -/
def isEncrypted (r : DirectoryRecord) : Bool := r.marks.testBit 0

/-- The name of an entry. It is Unicode if it is marked so. -/
def text? (r : DirectoryRecord) : Option String :=
  if r.marks.testBit 11 then String.fromUTF8? ⟨r.name.toArray⟩
  else some (Text.ofCodePage r.name)

/-- What stands behind the header of an entry. -/
def body? (r : DirectoryRecord) (archive : List UInt8) : Option (List UInt8) := do
  let s ← readMark 0x04034B50 (archive.drop r.offset)
  let (_, s) ← readBytes 22 s
  let (nameLength, s) ← readNumber 2 s
  let (extraLength, s) ← readNumber 2 s
  return (s.drop (nameLength + extraLength)).take r.length

/-- The content of an entry from what stands behind its header. -/
def content? (r : DirectoryRecord) (body : List UInt8) : Option (List UInt8) := do
  let content ←
    match r.method with
    | 0 => some body
    | 8 => inflate? body
    | _ => none
  guard (content.isEmpty || (Archive.checksum content).toNat = r.checksum)
  return content

/-- The entry of an archive that a record tells of. -/
def entry? (r : DirectoryRecord) (archive : List UInt8) : Option ArchiveEntry := do
  guard !r.isEncrypted
  let name ← r.text?
  let body ← r.body? archive
  if name.endsWith "/" then return ⟨name, ""⟩
  let content ← r.content? body
  let text ← String.fromUTF8? ⟨content.toArray⟩
  return ⟨name, text⟩

end DirectoryRecord

/-! ### Archives -/

/-- The entries of an archive, in the order of its directory. -/
def decode? (bytes : List UInt8) : Option (List ArchiveEntry) := do
  let tail ← lastEnd? none bytes
  guard (tail.length ≤ endRecordLength + maxComment)
  let place ← readEndRecord tail
  let front := bytes.length - tail.length
  guard (place.length + place.offset ≤ front)
  let archive := bytes.drop (front - (place.length + place.offset))
  let records ← DirectoryRecord.readAll place.count (archive.drop place.offset)
  records.mapM fun r => r.entry? archive

end Archive

/-- The entries of a file, if it is an archive. -/
def Content.entries? : Content → Option (List ArchiveEntry)
  | .archive entries => some entries
  | .text s => Archive.decode? (Archive.textBytes s)
  | .binary bytes => Archive.decode? bytes

end Scaffold

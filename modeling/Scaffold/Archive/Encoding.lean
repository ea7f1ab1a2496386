import Scaffold.Disk.FileSystem

/-!
# Archives as bytes

An archive is the sequence of its entries, each behind a header, and then a directory with one
record for each entry and a record for the archive as a whole. Numbers are written with their lowest
byte first. Entries are stored as they are, without compression, and all carry the same date.

Each entry carries a checksum: the remainder of its bytes, read as a polynomial with the lowest bit
of each byte first, on division by the polynomial of degree 32 whose other coefficients are the bits
of `0xEDB88320`. The register starts with all bits set, and all bits of the result are flipped.

## Main definitions

* `checksum`: the checksum of some bytes.
* `StoredEntry`: an entry as bytes with its place in the archive.
* `encode`: the bytes of an archive.
-/

namespace Scaffold.Archive

/-! ### Checksums -/

/-- The register moved on by one bit. -/
def shiftRegister (r : UInt32) : UInt32 :=
  if r &&& 1 = 1 then (r >>> 1) ^^^ 0xEDB88320 else r >>> 1

/-- The register moved on by some bits. -/
def shiftBits : (bits : Nat) → UInt32 → UInt32
  | 0, r => r
  | bits + 1, r => shiftBits bits (shiftRegister r)

/-- The register moved on by a byte. -/
def shiftByte (r : UInt32) (b : UInt8) : UInt32 :=
  shiftBits 8 (r ^^^ b.toUInt32)

/-- The checksum of some bytes. -/
def checksum (bytes : List UInt8) : UInt32 :=
  bytes.foldl shiftByte 0xFFFFFFFF ^^^ 0xFFFFFFFF

/-! ### Entries -/

/-- A number as some bytes, the lowest first. -/
def littleEndian : (bytes : Nat) → Nat → List UInt8
  | 0, _ => []
  | bytes + 1, n => UInt8.ofNat n :: littleEndian bytes (n / 256)

/-- The bytes of a text. -/
def textBytes (s : String) : List UInt8 := s.toUTF8.toList

/-- An entry as bytes, with the number of bytes in front of it. -/
structure StoredEntry where
  name : List UInt8
  content : List UInt8
  offset : Nat
  deriving DecidableEq, Repr

namespace StoredEntry

/-- What the header of an entry and its record in the directory have in common: version, marks for
text in names, method, time and date, checksum, sizes and the length of the name. -/
def description (e : StoredEntry) : List UInt8 :=
  littleEndian 2 20 ++ littleEndian 2 0x0800 ++ littleEndian 2 0 ++ littleEndian 2 0 ++
    littleEndian 2 0x0021 ++ littleEndian 4 (checksum e.content).toNat ++
    littleEndian 4 e.content.length ++ littleEndian 4 e.content.length ++
    littleEndian 2 e.name.length ++ littleEndian 2 0

/-- An entry behind its header. -/
def body (e : StoredEntry) : List UInt8 :=
  littleEndian 4 0x04034B50 ++ e.description ++ e.name ++ e.content

/-- The record of an entry in the directory. -/
def record (e : StoredEntry) : List UInt8 :=
  littleEndian 4 0x02014B50 ++ littleEndian 2 20 ++ e.description ++ littleEndian 2 0 ++
    littleEndian 2 0 ++ littleEndian 2 0 ++ littleEndian 4 0 ++ littleEndian 4 e.offset ++ e.name

end StoredEntry

/-- The entries as bytes, the first of which has some bytes in front of it. -/
def store (offset : Nat) : List ArchiveEntry → List StoredEntry
  | [] => []
  | e :: rest =>
    let stored : StoredEntry := ⟨textBytes e.name, textBytes e.content, offset⟩
    stored :: store (offset + stored.body.length) rest

/-- The record for an archive as a whole. -/
def endRecord (count directoryOffset directoryLength : Nat) : List UInt8 :=
  littleEndian 4 0x06054B50 ++ littleEndian 2 0 ++ littleEndian 2 0 ++ littleEndian 2 count ++
    littleEndian 2 count ++ littleEndian 4 directoryLength ++ littleEndian 4 directoryOffset ++
    littleEndian 2 0

/-- The bytes of an archive. -/
def encode (entries : List ArchiveEntry) : List UInt8 :=
  let stored := store 0 entries
  let bodies := stored.flatMap StoredEntry.body
  let directory := stored.flatMap StoredEntry.record
  bodies ++ directory ++ endRecord stored.length bodies.length directory.length

end Scaffold.Archive

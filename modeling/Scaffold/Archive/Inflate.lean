/-!
# Compressed data

Data is compressed into blocks. A block either holds bytes as they are, or symbols of a prefix code:
a symbol stands for a byte, for the end of the block, or for a length, and then a distance follows,
and as many bytes are repeated from that distance back. The code is a fixed one or stands at the
start of the block, as the lengths of its words, which are themselves in a prefix code.

A prefix code gives symbols words of bits such that no word begins another: a binary tree whose
leaves are the symbols. Such a code can be told by the lengths of the words alone: words are given
out in the order of their lengths, and of the symbols among equal lengths, each word being the next
number with as many bits.

Bits are taken from each byte from the lowest to the highest. Numbers begin with their lowest bit,
words of a code with their first.

## Main definitions

* `CodeTree`: a prefix code.
* `CodeTree.read?`: the symbol of the word at the start of some bits.
* `CodeTree.ofLengths?`: the code with words of some lengths.
* `bitsOf`: some bytes as bits.
* `readSymbols`: the data of a block from its symbols.
* `inflate?`: the data that some bytes are the compression of.
-/

namespace Scaffold.Archive

/-! ### Prefix codes -/

/-- A prefix code. -/
inductive CodeTree where
  | empty
  | leaf (symbol : Nat)
  | node (zero one : CodeTree)
  deriving DecidableEq, Repr

namespace CodeTree

/-- The code with one more word. There is none if the word begins another or another begins it. -/
def insert? (symbol : Nat) : List Bool → CodeTree → Option CodeTree
  | [], .empty => some (.leaf symbol)
  | false :: word, .empty => (insert? symbol word .empty).map fun t => .node t .empty
  | true :: word, .empty => (insert? symbol word .empty).map fun t => .node .empty t
  | false :: word, .node zero one => (insert? symbol word zero).map fun t => .node t one
  | true :: word, .node zero one => (insert? symbol word one).map fun t => .node zero t
  | [], _ => none
  | _ :: _, .leaf _ => none

/-- The symbol of the word at the start of some bits, and the bits behind the word. -/
def read? : CodeTree → List Bool → Option (Nat × List Bool)
  | .leaf symbol, bits => some (symbol, bits)
  | .node zero _, false :: bits => zero.read? bits
  | .node _ one, true :: bits => one.read? bits
  | .node _ _, [] => none
  | .empty, _ => none

/-- A number as a word of bits, the highest first. -/
def word : (length : Nat) → Nat → List Bool
  | 0, _ => []
  | length + 1, n => n.testBit length :: word length n

/-- The longest word of a code that is told by lengths. -/
def maxLength : Nat := 15

/-- The symbols whose words have some length, in order. -/
def symbolsOfLength (lengths : List Nat) (length : Nat) : List Nat :=
  lengths.zipIdx.filterMap fun (l, symbol) => if l = length then some symbol else none

/-- The code with a word for each of some symbols, which are numbered from the next free one on. -/
def insertAll? (length : Nat) : List Nat → Nat × CodeTree → Option (Nat × CodeTree)
  | [], state => some state
  | symbol :: rest, (next, tree) => do
    guard (next < Nat.pow 2 length)
    let tree ← tree.insert? symbol (word length next)
    insertAll? length rest (next + 1, tree)

/-- The code with words of some lengths, one for each symbol. A symbol of length zero has none. -/
def ofLengths? (lengths : List Nat) : Option CodeTree := do
  let sizes := (List.range maxLength).map (· + 1)
  let (_, tree) ← sizes.foldlM
    (fun (next, tree) length =>
      insertAll? length (symbolsOfLength lengths length) (2 * next, tree))
    (0, .empty)
  return tree

end CodeTree

/-! ### Bits -/

/-- The bits of a byte. -/
def bitsOfByte (b : UInt8) : List Bool :=
  (List.range 8).map fun i => b.toNat.testBit i

/-- Some bytes as bits. -/
def bitsOf (bytes : List UInt8) : List Bool :=
  bytes.flatMap bitsOfByte

/-- A number of some bits, and the bits behind it. -/
def readBits : (width : Nat) → List Bool → Option (Nat × List Bool)
  | 0, bits => some (0, bits)
  | _ + 1, [] => none
  | width + 1, bit :: bits =>
    (readBits width bits).map fun (n, rest) => (bit.toNat + 2 * n, rest)

/-! ### Lengths and distances -/

/-- The numbers of one symbol: a base, to which the number of some extra bits is added. -/
structure Band where
  base : Nat
  extra : Nat
  deriving DecidableEq, Repr

/-- Bands that follow each other without gaps, from the first base and the numbers of extra bits. -/
def bandsFrom : (base : Nat) → List Nat → List Band
  | _, [] => []
  | base, extra :: rest => ⟨base, extra⟩ :: bandsFrom (base + Nat.pow 2 extra) rest

/-- The lengths of repetitions. The longest has a symbol of its own. -/
def lengthBands : List Band :=
  bandsFrom 3 [0, 0, 0, 0, 0, 0, 0, 0, 1, 1, 1, 1, 2, 2, 2, 2, 3, 3, 3, 3, 4, 4, 4, 4, 5, 5, 5, 5]
    ++ [⟨258, 0⟩]

/-- The distances of repetitions. -/
def distanceBands : List Band :=
  bandsFrom 1 [0, 0, 0, 0, 1, 1, 2, 2, 3, 3, 4, 4, 5, 5, 6, 6, 7, 7, 8, 8, 9, 9, 10, 10, 11, 11, 12,
    12, 13, 13]

/-- The number that a symbol and the bits behind it give. -/
def readBand (bands : List Band) (symbol : Nat) (bits : List Bool) : Option (Nat × List Bool) := do
  let band ← bands[symbol]?
  let (n, bits) ← readBits band.extra bits
  return (band.base + n, bits)

/-- The data with some bytes from a distance back repeated. They may reach into the repetition. -/
def repeatBytes (distance : Nat) : (length : Nat) → Array UInt8 → Option (Array UInt8)
  | 0, data => some data
  | length + 1, data => do
    guard (1 ≤ distance && distance ≤ data.size)
    let b ← data[data.size - distance]?
    repeatBytes distance length (data.push b)

/-! ### Blocks -/

/-- The symbol that ends a block. -/
def endOfBlock : Nat := 256

/-- The data with that of a block, from its symbols. -/
def readSymbols (letters distances : CodeTree) :
    (steps : Nat) → Array UInt8 → List Bool → Option (Array UInt8 × List Bool)
  | 0, _, _ => none
  | steps + 1, data, bits => do
    let (symbol, bits) ← letters.read? bits
    if symbol < endOfBlock then
      readSymbols letters distances steps (data.push (UInt8.ofNat symbol)) bits
    else if symbol = endOfBlock then
      return (data, bits)
    else
      let (length, bits) ← readBand lengthBands (symbol - endOfBlock - 1) bits
      let (symbol, bits) ← distances.read? bits
      let (distance, bits) ← readBand distanceBands symbol bits
      let data ← repeatBytes distance length data
      readSymbols letters distances steps data bits

/-- The lengths of words in the fixed code for bytes and lengths. -/
def fixedLetterLengths : List Nat :=
  List.replicate 144 8 ++ List.replicate 112 9 ++ List.replicate 24 7 ++ List.replicate 8 8

/-- The lengths of words in the fixed code for distances. -/
def fixedDistanceLengths : List Nat := List.replicate 30 5

/-- The symbols of the code for lengths of words, in the order in which their own lengths are
given. -/
def lengthOrder : List Nat :=
  [16, 17, 18, 0, 8, 7, 9, 6, 10, 5, 11, 4, 12, 3, 13, 2, 14, 1, 15]

/-- Some numbers of three bits. -/
def readTriples : (count : Nat) → List Bool → Option (List Nat × List Bool)
  | 0, bits => some ([], bits)
  | count + 1, bits => do
    let (n, bits) ← readBits 3 bits
    let (rest, bits) ← readTriples count bits
    return (n :: rest, bits)

/-- Lengths of words behind those that were read, until there are `count`. A symbol is a length, or
repeats the last length or zero. -/
def readLengths (code : CodeTree) (count : Nat) :
    (steps : Nat) → Array Nat → List Bool → Option (List Nat × List Bool)
  | 0, _, _ => none
  | steps + 1, lengths, bits =>
    if lengths.size = count then some (lengths.toList, bits)
    else if count < lengths.size then none
    else do
      let (symbol, bits) ← code.read? bits
      if symbol < 16 then
        readLengths code count steps (lengths.push symbol) bits
      else if symbol = 16 then
        let last ← lengths.back?
        let (n, bits) ← readBits 2 bits
        readLengths code count steps (lengths ++ Array.replicate (n + 3) last) bits
      else if symbol = 17 then
        let (n, bits) ← readBits 3 bits
        readLengths code count steps (lengths ++ Array.replicate (n + 3) 0) bits
      else
        let (n, bits) ← readBits 7 bits
        readLengths code count steps (lengths ++ Array.replicate (n + 11) 0) bits

/-- The codes at the start of a block: for bytes and lengths, and for distances. -/
def readCodes (bits : List Bool) : Option (CodeTree × CodeTree × List Bool) := do
  let (letterCount, bits) ← readBits 5 bits
  let (distanceCount, bits) ← readBits 5 bits
  let (lengthCount, bits) ← readBits 4 bits
  let letterCount := letterCount + 257
  let distanceCount := distanceCount + 1
  let (given, bits) ← readTriples (lengthCount + 4) bits
  let ordered := lengthOrder.zip given
  let code ← CodeTree.ofLengths? ((List.range 19).map fun s => (ordered.lookup s).getD 0)
  let count := letterCount + distanceCount
  let (lengths, bits) ← readLengths code count (count + 1) #[] bits
  let letters ← CodeTree.ofLengths? (lengths.take letterCount)
  let distances ← CodeTree.ofLengths? (lengths.drop letterCount)
  return (letters, distances, bits)

/-- The data with some bytes that stand as they are at the start of some bits. -/
def readStored : (count : Nat) → Array UInt8 → List Bool → Option (Array UInt8 × List Bool)
  | 0, data, bits => some (data, bits)
  | count + 1, data, bits => do
    let (b, bits) ← readBits 8 bits
    readStored count (data.push (UInt8.ofNat b)) bits

/-- The data with that of the blocks at the start of some bits. The bits end with a whole byte, so
that their number tells how many of them are left of the byte that was begun. -/
def readBlocks : (steps : Nat) → Array UInt8 → List Bool → Option (Array UInt8)
  | 0, _, _ => none
  | steps + 1, data, bits => do
    let (isLast, bits) ← readBits 1 bits
    let (kind, bits) ← readBits 2 bits
    let (data, bits) ←
      match kind with
      | 0 => do
        let bits := bits.drop (bits.length % 8)
        let (count, bits) ← readBits 16 bits
        let (complement, bits) ← readBits 16 bits
        guard (count + complement = 0xFFFF)
        readStored count data bits
      | 1 => do
        let letters ← CodeTree.ofLengths? fixedLetterLengths
        let distances ← CodeTree.ofLengths? fixedDistanceLengths
        readSymbols letters distances (bits.length + 1) data bits
      | 2 => do
        let (letters, distances, bits) ← readCodes bits
        readSymbols letters distances (bits.length + 1) data bits
      | _ => none
    if isLast = 1 then return data else readBlocks steps data bits

/-- The data that some bytes are the compression of. -/
def inflate? (bytes : List UInt8) : Option (List UInt8) :=
  let bits := bitsOf bytes
  (readBlocks (bits.length + 1) #[] bits).map Array.toList

end Scaffold.Archive

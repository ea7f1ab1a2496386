import Scaffold.Json.Node
import Scaffold.Text.Basic

/-!
# Reading documents

Every reader takes the rest of the text and returns what it read together with what is left, or
without it once a fault was met. White space is the space, the tab, the line feed and the carriage
return.

Lists and objects may be nested to any depth. The readers are given a number of steps that suffices
for the length of the text, since every step that nests takes a character.

## Main definitions

* `readString`, `readNumber`, `readWord`: the values without parts.
* `readValue`: a value of any kind.
* `read`: a whole document, with what follows it.
-/

namespace Scaffold.Json

/-- Whether a character is white space between the parts of a document. -/
def isBlank (c : Char) : Bool :=
  c == ' ' || c == '\t' || c == '\n' || c == '\r'

/-- The text behind its leading white space. -/
def skipBlanks (s : List Char) : List Char :=
  s.dropWhile isBlank

/-! ### Texts -/

/-- The code unit that four hexadecimal digits stand for. -/
def codeUnit? (a b c d : Char) : Option Nat := do
  let a ← Text.hexDigit? a
  let b ← Text.hexDigit? b
  let c ← Text.hexDigit? c
  let d ← Text.hexDigit? d
  return ((a * 16 + b) * 16 + c) * 16 + d

/-- The number of bytes of a text. -/
def byteCount (s : List Char) : Nat :=
  s.foldr (fun c bytes => c.utf8Size + bytes) 0

/-- The character that a backslash and a character stand for, where the character decides. -/
def simpleEscape? (c : Char) : Option Char :=
  if c = '"' then some '"'
  else if c = '\\' then some '\\'
  else if c = '/' then some '/'
  else if c = 'b' then some '\x08'
  else if c = 'f' then some '\x0c'
  else if c = 'n' then some '\n'
  else if c = 'r' then some '\r'
  else if c = 't' then some '\t'
  else none

/-- A text with one more piece in front, and what is left. -/
def pushPiece (p : Piece) (r : RawString × Option (List Char)) : RawString × Option (List Char) :=
  (⟨p :: r.1.pieces, r.1.ending⟩, r.2)

/-- A text behind its opening quote. -/
def readString : List Char → RawString × Option (List Char)
  | [] => (⟨[], .endOfText⟩, none)
  | '"' :: rest => (⟨[], .closed⟩, some rest)
  | '\\' :: 'u' :: a :: b :: c :: d :: rest =>
    match codeUnit? a b c d with
    | some n => pushPiece (.unit n) (readString rest)
    | none => (⟨[], .badHexDigits⟩, none)
  | '\\' :: 'u' :: rest =>
    (⟨[], if byteCount rest < 4 then .endOfText else .badHexDigits⟩, none)
  | ['\\'] => (⟨[], .endOfText⟩, none)
  | '\\' :: c :: rest =>
    match simpleEscape? c with
    | some e => pushPiece (.char e) (readString rest)
    | none => (⟨[], .unknownEscape⟩, none)
  | c :: rest =>
    if c.toNat < 0x20 then (⟨[], .controlCharacter⟩, none)
    else pushPiece (.char c) (readString rest)

/-! ### Numbers and words -/

/-- The digits at the start of a text, and the text behind them. -/
def readDigits (s : List Char) : List Nat × List Char :=
  ((s.takeWhile Char.isDigit).map fun c => c.toNat - '0'.toNat, s.dropWhile Char.isDigit)

/-- The fault of a number that breaks off in front of a text. -/
def numberFault (rest : List Char) : Node × Option (List Char) :=
  (.broken (.badNumber rest.isEmpty), none)

/-- The exponent of a number, if there is one. -/
def readExponent (isNegative : Bool) (whole : List Nat) (fraction : Option (List Nat))
    (s : List Char) : Node × Option (List Char) :=
  let finish (negative : Bool) (s : List Char) : Node × Option (List Char) :=
    match readDigits s with
    | ([], rest) => numberFault rest
    | (digits, rest) => (.number ⟨isNegative, whole, fraction, some (negative, digits)⟩, some rest)
  match s with
  | 'e' :: '+' :: rest | 'E' :: '+' :: rest => finish false rest
  | 'e' :: '-' :: rest | 'E' :: '-' :: rest => finish true rest
  | 'e' :: rest | 'E' :: rest => finish false rest
  | _ => (.number ⟨isNegative, whole, fraction, none⟩, some s)

/-- The fraction and the exponent of a number, as far as there are any. -/
def readFraction (isNegative : Bool) (whole : List Nat) (s : List Char) :
    Node × Option (List Char) :=
  match s with
  | '.' :: rest =>
    match readDigits rest with
    | ([], rest) => numberFault rest
    | (digits, rest) => readExponent isNegative whole (some digits) rest
  | _ => readExponent isNegative whole none s

/-- A number behind its sign. A number that starts with zero has no other digit in front of the
point. -/
def readNumber (isNegative : Bool) (s : List Char) : Node × Option (List Char) :=
  match readDigits s with
  | ([], rest) => numberFault rest
  | (0 :: _ :: _, _) => (.broken (.badNumber false), none)
  | (whole, rest) => readFraction isNegative whole rest

/-- One of the fixed words, of which `word` is left to be read. -/
def readWord (value : Node) : (word : List Char) → List Char → Node × Option (List Char)
  | [], s => (value, some s)
  | _ :: _, [] => (.broken .endOfText, none)
  | w :: word, c :: rest => if c = w then readWord value word rest else (.broken .badWord, none)

/-! ### Values with parts -/

mutual

/-- A value. -/
def readValue : (steps : Nat) → List Char → Node × Option (List Char)
  | 0, _ => (.broken .endOfText, none)
  | steps + 1, s =>
    match skipBlanks s with
    | [] => (.broken .endOfText, none)
    | c :: rest =>
      if c = 'n' then readWord .null ['u', 'l', 'l'] rest
      else if c = 't' then readWord (.boolean true) ['r', 'u', 'e'] rest
      else if c = 'f' then readWord (.boolean false) ['a', 'l', 's', 'e'] rest
      else if c = '"' then
        let (s, rest) := readString rest
        (.string s, rest)
      else if c = '-' then readNumber true rest
      else if c.isDigit then readNumber false (c :: rest)
      else if c = '[' then
        match skipBlanks rest with
        | [] => (.array [] .endOfText, none)
        | ']' :: rest => (.array [] .closed, some rest)
        | rest =>
          let (items, ending, rest) := readItems steps rest
          (.array items ending, rest)
      else if c = '\x7b' then
        match skipBlanks rest with
        | [] => (.object [] .endOfText, none)
        | '\x7d' :: rest => (.object [] .closed, some rest)
        | rest =>
          let (members, ending, rest) := readMembers steps rest
          (.object members ending, rest)
      else (.broken .notValue, none)

/-- The items of a list from an item on. -/
def readItems : (steps : Nat) → List Char → List Node × ArrayEnd × Option (List Char)
  | 0, _ => ([], .cut, none)
  | steps + 1, s =>
    match readValue steps s with
    | (item, none) => ([item], .cut, none)
    | (item, some rest) =>
      match skipBlanks rest with
      | [] => ([item], .endOfText, none)
      | ']' :: rest => ([item], .closed, some rest)
      | ',' :: rest =>
        match skipBlanks rest with
        | [] => ([item], .endOfTextAfterComma, none)
        | ']' :: _ => ([item], .closedAfterComma, none)
        | rest =>
          let (items, ending, rest) := readItems steps rest
          (item :: items, ending, rest)
      | _ => ([item], .junk, none)

/-- The members of an object from a key on. -/
def readMembers :
    (steps : Nat) → List Char → List (RawString × Node) × ObjectEnd × Option (List Char)
  | 0, _ => ([], .cut, none)
  | steps + 1, s =>
    match s with
    | '"' :: rest =>
      match readString rest with
      | (key, none) => ([], .brokenKey key, none)
      | (key, some rest) =>
        match skipBlanks rest with
        | ':' :: rest =>
          match readValue steps rest with
          | (value, none) => ([(key, value)], .cut, none)
          | (value, some rest) =>
            match skipBlanks rest with
            | [] => ([(key, value)], .endOfText, none)
            | '\x7d' :: rest => ([(key, value)], .closed, some rest)
            | ',' :: rest =>
              match skipBlanks rest with
              | [] => ([(key, value)], .endOfTextAfterComma, none)
              | '\x7d' :: _ => ([(key, value)], .closedAfterComma, none)
              | rest =>
                let (members, ending, rest) := readMembers steps rest
                ((key, value) :: members, ending, rest)
            | _ => ([(key, value)], .junk, none)
        | [] => ([], .noColon key true, none)
        | _ => ([], .noColon key false, none)
    | _ => ([], .notKey, none)

end

/-- The value at the start of a text, and the text behind it. -/
def read (s : List Char) : Node × Option (List Char) :=
  readValue (2 * s.length + 2) s

end Scaffold.Json

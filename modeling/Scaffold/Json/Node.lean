import Scaffold.Record.Basic

/-!
# Documents as they were read

What is wrong with a document depends on how it is used. A member that no record asks for only has
to be well formed, and in a value that is skipped some mistakes are told differently from those in a
value that is read. A document is therefore first read into a tree that keeps what was found up to
the first fault together with the fault, and the tree is judged afterwards, in the order of the
text.

## Main definitions

* `SyntaxError`, `Error`: what is wrong with a document.
* `RawString`: a text in quotes with its escapes taken apart but not joined.
* `Numeral`: a number as it is spelled.
* `Node`: a value up to its first fault.
-/

namespace Scaffold.Json

/-- What is wrong with the form of a document. -/
inductive SyntaxError where
  | endInValue
  | endInList
  | endInObject
  | endInString
  | expectedValue
  | expectedWord
  | expectedColon
  | expectedCommaOrListEnd
  | expectedCommaOrObjectEnd
  | keyNotString
  | trailingComma
  | trailingCharacters
  | invalidNumber
  | numberOutOfRange
  | invalidEscape
  | controlCharacter
  | loneSurrogate
  | endInSurrogatePair
  deriving DecidableEq, Repr

/-- The message of an error in the form of a document. -/
def SyntaxError.message : SyntaxError → String
  | .endInValue => "EOF while parsing a value"
  | .endInList => "EOF while parsing a list"
  | .endInObject => "EOF while parsing an object"
  | .endInString => "EOF while parsing a string"
  | .expectedValue => "expected value"
  | .expectedWord => "expected ident"
  | .expectedColon => "expected `:`"
  | .expectedCommaOrListEnd => "expected `,` or `]`"
  | .expectedCommaOrObjectEnd => "expected `,` or `\x7d`"
  | .keyNotString => "key must be a string"
  | .trailingComma => "trailing comma"
  | .trailingCharacters => "trailing characters"
  | .invalidNumber => "invalid number"
  | .numberOutOfRange => "number out of range"
  | .invalidEscape => "invalid escape"
  | .controlCharacter => "control character (\\u0000-\\u001F) found while parsing a string"
  | .loneSurrogate => "lone leading surrogate in hex escape"
  | .endInSurrogatePair => "unexpected end of hex escape"

/-- What is wrong with a document: its form or its content. -/
inductive Error where
  | form (e : SyntaxError)
  | content (e : Record.Error)
  deriving DecidableEq, Repr

/-- The message of an error. -/
def Error.message : Error → String
  | .form e => e.message
  | .content e => e.message

/-- A piece of a text: a character, or half of one that was escaped as a code unit. -/
inductive Piece where
  | char (c : Char)
  | unit (n : Nat)
  deriving DecidableEq, Repr

/-- How a text in quotes ends: at its closing quote, or at a fault. -/
inductive StringEnd where
  | closed
  | endOfText
  | unknownEscape
  | badHexDigits
  | controlCharacter
  deriving DecidableEq, Repr

/-- A text in quotes up to its first fault. -/
structure RawString where
  pieces : List Piece
  ending : StringEnd
  deriving DecidableEq, Repr

/-- A number as it is spelled. An exponent has a sign, which is negative or not, and digits. -/
structure Numeral where
  isNegative : Bool
  whole : List Nat
  fraction : Option (List Nat)
  exponent : Option (Bool × List Nat)
  deriving DecidableEq, Repr

/-- Why no value could be read. A number may break off at the end of the text or before it. -/
inductive Fault where
  | endOfText
  | notValue
  | badWord
  | badNumber (atEnd : Bool)
  deriving DecidableEq, Repr

/-- How a list ends. It is `cut` if its last item has a fault. -/
inductive ArrayEnd where
  | closed
  | endOfText
  | junk
  | endOfTextAfterComma
  | closedAfterComma
  | cut
  deriving DecidableEq, Repr

/-- How an object ends. It is `cut` if the value of its last member has a fault; other faults in a
member leave its key. -/
inductive ObjectEnd where
  | closed
  | endOfText
  | junk
  | notKey
  | endOfTextAfterComma
  | closedAfterComma
  | brokenKey (key : RawString)
  | noColon (key : RawString) (atEnd : Bool)
  | cut
  deriving DecidableEq, Repr

/-- A value up to its first fault. -/
inductive Node where
  | broken (fault : Fault)
  | null
  | boolean (b : Bool)
  | number (n : Numeral)
  | string (s : RawString)
  | array (items : List Node) (ending : ArrayEnd)
  | object (members : List (RawString × Node)) (ending : ObjectEnd)
  deriving Repr

end Scaffold.Json

import Scaffold.Decimal
import Scaffold.Json.Node
import Scaffold.Text.Basic

/-!
# Judging what was read

A value that no record asks for is skipped: it has to be well formed, but the surrogates in its
texts and the size of its numbers do not matter. A value that a record asks for has to be of the
right type, and if it is not, the message tells what was found; a list or an object is told apart by
its first character, everything else has to be read completely first.

The pieces of a text are joined from left to right. Escaped code units have to be characters: a
leading surrogate has to be followed by an escaped trailing one, and a trailing surrogate cannot
stand alone. The first mistake counts, so how a text ends matters only if its pieces join.

No record has a number in it, so the value of a number only shows in the message that says that it
is in the wrong place. A number without fraction and exponent is an integer if it fits into 64 bits,
signed below zero and unsigned above. Any other number is a floating point number. It is computed
from a significand of at most 64 bits, whose further digits only count, scaled by a power of ten in
floating point arithmetic; negative zero is such a number too. A number that is too large has no
value.

## Main definitions

* `RawString.text`: the text that some pieces make.
* `Numeral.found`: the value of a number.
* `Node.skipError?`: what is wrong with a skipped value.
* `Node.found`: what stands in the place of a value of another type.
* `Node.string`, `Node.list`, `Node.optionalString`: the value as a value of a type.
-/

namespace Scaffold.Json

/-! ### The value of a text -/

/-- Whether a code unit is the first half of a character. -/
def isLeading (n : Nat) : Bool := 0xD800 ≤ n && n ≤ 0xDBFF

/-- Whether a code unit is the second half of a character. -/
def isTrailing (n : Nat) : Bool := 0xDC00 ≤ n && n ≤ 0xDFFF

/-- The character that two halves stand for. -/
def joinUnits (leading trailing : Nat) : Char :=
  Char.ofNat (0x10000 + (leading - 0xD800) * 0x400 + (trailing - 0xDC00))

/-- What is wrong with a text that ends in a given way. -/
def StringEnd.error? : StringEnd → Option SyntaxError
  | .closed => none
  | .endOfText => some .endInString
  | .unknownEscape => some .invalidEscape
  | .badHexDigits => some .invalidEscape
  | .controlCharacter => some .controlCharacter

/-- What is wrong with a text that ends in a given way behind a leading surrogate. -/
def StringEnd.errorInPair : StringEnd → SyntaxError
  | .closed => .endInSurrogatePair
  | .endOfText => .endInString
  | .unknownEscape => .endInSurrogatePair
  | .badHexDigits => .invalidEscape
  | .controlCharacter => .endInSurrogatePair

/-- The characters of some pieces in front of an ending. -/
def joinPieces (ending : StringEnd) : List Piece → Except SyntaxError (List Char)
  | [] =>
    match ending.error? with
    | some e => .error e
    | none => .ok []
  | .char c :: rest => (joinPieces ending rest).map (c :: ·)
  | [.unit n] =>
    if isTrailing n then .error .loneSurrogate
    else if isLeading n then .error ending.errorInPair
    else (joinPieces ending []).map (Char.ofNat n :: ·)
  | .unit n :: next :: rest =>
    if isTrailing n then .error .loneSurrogate
    else if isLeading n then
      match next with
      | .char _ => .error .endInSurrogatePair
      | .unit m =>
        if isTrailing m then (joinPieces ending rest).map (joinUnits n m :: ·)
        else .error .loneSurrogate
    else (joinPieces ending (next :: rest)).map (Char.ofNat n :: ·)

/-- The text that was read. -/
def RawString.text (s : RawString) : Except SyntaxError String :=
  (joinPieces s.ending s.pieces).map String.ofList

/-! ### The value of a number -/

/-- The greatest significand. -/
def maxSignificand : Nat := Nat.pow 2 64 - 1

/-- A significand with as many digits as fit, and the number of those that do not. -/
def absorbDigits (significand : Nat) : List Nat → Nat × Nat
  | [] => (significand, 0)
  | d :: rest =>
    if significand * 10 + d ≤ maxSignificand then absorbDigits (significand * 10 + d) rest
    else (significand, rest.length + 1)

/-- A power of ten as floating point number. -/
def powerOfTen (n : Nat) : Float :=
  Decimal.toFloat ⟨1, n⟩

/-- A number scaled by a power of ten, unless it gets too large. Beyond the range of powers it is
brought down in steps. -/
def scaleByTen (x : Float) (exponent : Int) : Option Float :=
  if exponent.natAbs ≤ 308 then
    if 0 ≤ exponent then
      let y := x * powerOfTen exponent.natAbs
      if y.isInf then none else some y
    else some (x / powerOfTen exponent.natAbs)
  else if x == 0 then some x
  else if 0 ≤ exponent then none
  else scaleByTen (x / powerOfTen 308) (exponent + 308)
termination_by exponent.natAbs

/-- Powers of ten beyond this one are not computed. -/
def maxExponent : Nat := Nat.pow 2 31 - 1

namespace Numeral

/-- The significand of a number and its power of ten, without the exponent that is spelled out. -/
def significand (n : Numeral) : Nat × Int :=
  let (significand, dropped) := absorbDigits 0 n.whole
  match n.fraction with
  | none => (significand, dropped)
  | some digits =>
    let (significand, ignored) := absorbDigits significand digits
    (significand, (dropped : Int) - ((digits.length : Int) - ignored))

/-- The magnitude of a number as floating point number. -/
def magnitude? (n : Numeral) : Option Float :=
  let (significand, scale) := n.significand
  match n.exponent with
  | none => scaleByTen (Float.ofNat significand) scale
  | some (isNegative, digits) =>
    let exponent := Text.natOfDigits 10 digits
    if exponent ≤ maxExponent then
      scaleByTen (Float.ofNat significand)
        (if isNegative then scale - exponent else scale + exponent)
    else if significand = 0 || isNegative then some 0
    else none

/-- The integer that a number spells, if it is one that fits. -/
def integer? (n : Numeral) : Option Int :=
  let value := Text.natOfDigits 10 n.whole
  if n.fraction.isSome || n.exponent.isSome then none
  else if n.isNegative then
    if 0 < value ∧ value ≤ Nat.pow 2 63 then some (-(value : Int)) else none
  else if value ≤ maxSignificand then some value
  else none

/-- What a number is found to be. -/
def found (n : Numeral) : Except SyntaxError Record.Found :=
  match n.integer?, n.magnitude? with
  | some value, _ => .ok (.integer value)
  | none, none => .error .numberOutOfRange
  | none, some x =>
    .ok (.floating (Decimal.signedText Decimal.mixed (if n.isNegative then -x else x)))

end Numeral

/-! ### Skipped values -/

/-- What is wrong with a skipped text. -/
def RawString.skipError? (s : RawString) : Option SyntaxError :=
  s.ending.error?

/-- What is wrong with a skipped value that could not be read. -/
def Fault.skipError : Fault → SyntaxError
  | .endOfText => .endInValue
  | .notValue => .expectedValue
  | .badWord => .expectedWord
  | .badNumber _ => .invalidNumber

/-- What is wrong with a skipped list that ends in a given way. -/
def ArrayEnd.skipError? : ArrayEnd → Option SyntaxError
  | .closed | .cut => none
  | .endOfText => some .endInList
  | .junk => some .expectedCommaOrListEnd
  | .endOfTextAfterComma => some .endInValue
  | .closedAfterComma => some .expectedValue

/-- What is wrong with a skipped object that ends in a given way. -/
def ObjectEnd.skipError? : ObjectEnd → Option SyntaxError
  | .closed | .cut => none
  | .endOfText | .endOfTextAfterComma => some .endInObject
  | .junk => some .expectedCommaOrObjectEnd
  | .notKey | .closedAfterComma => some .keyNotString
  | .brokenKey key => key.skipError?
  | .noColon _ true => some .endInObject
  | .noColon _ false => some .expectedColon

mutual

/-- What is wrong with a skipped value. -/
def Node.skipError? : Node → Option SyntaxError
  | .broken fault => some fault.skipError
  | .null | .boolean _ | .number _ => none
  | .string s => s.skipError?
  | .array items ending => skipItems items <|> ending.skipError?
  | .object members ending => skipMembers members <|> ending.skipError?

/-- The first mistake in the items of a skipped list. -/
def skipItems : List Node → Option SyntaxError
  | [] => none
  | item :: rest => item.skipError? <|> skipItems rest

/-- The first mistake in the members of a skipped object. -/
def skipMembers : List (RawString × Node) → Option SyntaxError
  | [] => none
  | (key, value) :: rest => key.skipError? <|> value.skipError? <|> skipMembers rest

end

/-- A value is skipped. -/
def Node.skip (node : Node) : Except Error Unit :=
  match node.skipError? with
  | some e => .error (.form e)
  | none => .ok ()

/-! ### Values of a type -/

/-- What is wrong with a value that a record asks for and that could not be read. -/
def Fault.error : Fault → SyntaxError
  | .endOfText | .badNumber true => .endInValue
  | .notValue => .expectedValue
  | .badWord => .expectedWord
  | .badNumber false => .invalidNumber

/-- What a value is found to be. -/
def Node.found : Node → Except SyntaxError Record.Found
  | .broken fault => .error fault.error
  | .null => .ok .null
  | .boolean b => .ok (.boolean b)
  | .number n => n.found
  | .string s => s.text.map .string
  | .array _ _ => .ok .sequence
  | .object _ _ => .ok .map

/-- The error for a value that is not of the type asked for. -/
def Node.wrongType (node : Node) (expected : String) : Error :=
  match node.found with
  | .error e => .form e
  | .ok found => .content (.wrongType found expected)

/-- The value as a text. -/
def Node.text : Node → Except Error String
  | .string s => s.text.mapError .form
  | node => .error (node.wrongType "a string")

/-- The value as a text that may be absent. -/
def Node.optionalText : Node → Except Error (Option String)
  | .null => .ok none
  | node => node.text.map some

/-- What is wrong with a list behind its last item. -/
def ArrayEnd.error? : ArrayEnd → Option SyntaxError
  | .closed | .cut => none
  | .endOfText => some .endInList
  | .junk => some .expectedCommaOrListEnd
  | .endOfTextAfterComma => some .endInValue
  | .closedAfterComma => some .trailingComma

/-- The value as a list of values, each of which is read by `item`. -/
def Node.list {α : Type} (item : Node → Except Error α) : Node → Except Error (List α)
  | .array items ending =>
    match items.mapM item with
    | .error e => .error e
    | .ok values =>
      match ending.error? with
      | some e => .error (.form e)
      | none => .ok values
  | node => .error (node.wrongType "a sequence")

end Scaffold.Json

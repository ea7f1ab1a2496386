import Scaffold.Decimal
import Scaffold.Text.Basic
import Scaffold.Toml.Value

/-!
# Scalars without quotes

Booleans, numbers, dates and times are written as a word of letters, digits and a few signs.
Integers are decimal with an optional sign, or hexadecimal, octal or binary without one; digits may
be parted by single underscores. A floating point number is a decimal integer with a fraction, an
exponent or both. Seconds may be left out of a time.

The digits of an integer that is not decimal may be missing, but then it has no value. Neither has
an integer of more than 128 bits, nor a floating point number beyond all finite ones.

## Main definitions

* `isScalarChar`: the characters of a scalar.
* `scalar?`: the value of a word.
* `isDate`: whether a word is a date, behind which a time may follow after a space.
-/

namespace Scaffold.Toml

/-- Whether a character may be part of a scalar without quotes. -/
def isScalarChar (c : Char) : Bool :=
  c.isAlphanum || c == '_' || c == '-' || c == '+' || c == '.' || c == ':'

/-! ### Numbers -/

/-- The digits of a word in which single underscores may stand between digits. -/
def groupedDigits? (base : Nat) : List Char → Option (List Nat)
  | [] => none
  | [c] => (Text.digitIn? base c).map fun d => [d]
  | c :: '_' :: rest => do
    let d ← Text.digitIn? base c
    let digits ← groupedDigits? base rest
    return d :: digits
  | c :: rest => do
    let d ← Text.digitIn? base c
    let digits ← groupedDigits? base rest
    return d :: digits

/-- The digits of a decimal integer, which has no leading zeros. -/
def wholeDigits? (s : List Char) : Option (List Nat) :=
  (groupedDigits? 10 s).filter fun digits => digits.length = 1 || digits.head? != some 0

/-- The sign of a word, and the word without it. -/
def splitSign : List Char → Bool × List Char
  | '-' :: rest => (true, rest)
  | '+' :: rest => (false, rest)
  | s => (false, s)

/-- A number with a sign. -/
def withSign (isNegative : Bool) (n : Nat) : Int :=
  if isNegative then -(n : Int) else n

/-- An integer as a value: it has to fit into 128 bits, with or without a sign. -/
def integerValue (n : Int) : Value :=
  if -(Int.pow 2 127) ≤ n ∧ n < Int.pow 2 128 then .integer n else .numberWithoutValue

/-- The value of the digits behind the mark of a base. -/
def basedInteger? (base : Nat) : List Char → Option Value
  | [] => some .numberWithoutValue
  | s => (groupedDigits? base s).map fun digits => integerValue (Text.natOfDigits base digits)

/-- The value of a word that is an integer. -/
def integer? (s : List Char) : Option Value :=
  match s with
  | '0' :: 'x' :: rest => basedInteger? 16 rest
  | '0' :: 'o' :: rest => basedInteger? 8 rest
  | '0' :: 'b' :: rest => basedInteger? 2 rest
  | _ =>
    let (isNegative, rest) := splitSign s
    (wholeDigits? rest).map fun digits =>
      integerValue (withSign isNegative (Text.natOfDigits 10 digits))

/-- The exponent of a word behind its `e`. -/
def exponent? (s : List Char) : Option Int :=
  let (isNegative, rest) := splitSign s
  (groupedDigits? 10 rest).map fun ds => withSign isNegative (Text.natOfDigits 10 ds)

/-- The magnitude of a word without a sign as floating point number. -/
def magnitude? (s : List Char) : Option Float := do
  let isMark (c : Char) : Bool := c == 'e' || c == 'E'
  let mantissa := s.takeWhile fun c => !isMark c
  let power := s.dropWhile fun c => !isMark c
  let wholePart := mantissa.takeWhile (· != '.')
  let pointPart := mantissa.dropWhile (· != '.')
  guard !(power.isEmpty && pointPart.isEmpty)
  let whole ← wholeDigits? wholePart
  let fraction ←
    match pointPart with
    | [] => some []
    | _ :: digits => groupedDigits? 10 digits
  let exponent ←
    match power with
    | [] => some 0
    | _ :: digits => exponent? digits
  let decimal : Decimal := ⟨Text.natOfDigits 10 (whole ++ fraction), exponent - fraction.length⟩
  return decimal.toFloat

/-- A floating point number as a value. -/
def floatingValue (x : Float) : Value :=
  .floating (Decimal.signedText Decimal.positional x)

/-- The value of a word that is a floating point number. -/
def floating? (s : List Char) : Option Value :=
  let (isNegative, rest) := splitSign s
  let signed (x : Float) : Float := if isNegative then -x else x
  if rest = ['i', 'n', 'f'] then some (floatingValue (signed (1 / 0)))
  else if rest = ['n', 'a', 'n'] then some (floatingValue (signed (0 / 0)))
  else
    (magnitude? rest).map fun x =>
      if x.isInf then .numberWithoutValue else floatingValue (signed x)

/-! ### Dates and times -/

/-- The number that exactly two digits stand for. -/
def twoDigits? : List Char → Option (Nat × List Char)
  | a :: b :: rest => do
    let a ← Text.digitIn? 10 a
    let b ← Text.digitIn? 10 b
    return (a * 10 + b, rest)
  | _ => none

/-- The number of days in a month. -/
def daysIn (year month : Nat) : Nat :=
  if month = 2 then
    if year % 4 = 0 && (year % 100 != 0 || year % 400 = 0) then 29 else 28
  else if month = 4 || month = 6 || month = 9 || month = 11 then 30
  else 31

/-- What stands behind a date at the start of a word. -/
def behindDate? (s : List Char) : Option (List Char) := do
  let (century, s) ← twoDigits? s
  let (year, s) ← twoDigits? s
  let '-' :: s := s | none
  let (month, s) ← twoDigits? s
  let '-' :: s := s | none
  let (day, s) ← twoDigits? s
  guard (1 ≤ month && month ≤ 12 && 1 ≤ day && day ≤ daysIn (century * 100 + year) month)
  return s

/-- What stands behind the seconds of a time, where there may be a fraction. -/
def behindFraction? : List Char → Option (List Char)
  | '.' :: rest =>
    match rest.takeWhile Char.isDigit with
    | [] => none
    | _ => some (rest.dropWhile Char.isDigit)
  | s => some s

/-- What stands behind a time at the start of a word. -/
def behindTime? (s : List Char) : Option (List Char) := do
  let (hour, s) ← twoDigits? s
  let ':' :: s := s | none
  let (minute, s) ← twoDigits? s
  guard (hour ≤ 23 && minute ≤ 59)
  match s with
  | ':' :: s => do
    let (second, s) ← twoDigits? s
    guard (second ≤ 60)
    behindFraction? s
  | _ => return s

/-- Whether a text is an offset from universal time. -/
def isOffset (s : List Char) : Bool :=
  match s with
  | ['Z'] | ['z'] => true
  | '+' :: rest | '-' :: rest =>
    match twoDigits? rest with
    | some (hour, ':' :: rest) =>
      match twoDigits? rest with
      | some (minute, []) => hour ≤ 23 && minute ≤ 59
      | _ => false
    | _ => false
  | _ => false

/-- Whether a word is a date. -/
def isDate (s : List Char) : Bool :=
  behindDate? s == some []

/-- Whether a word is a date, a time, or both with a `T` or a space between them and perhaps an
offset. -/
def isMoment (s : List Char) : Bool :=
  match behindDate? s with
  | some [] => true
  | some (c :: rest) =>
    (c == 'T' || c == 't' || c == ' ') &&
      match behindTime? rest with
      | some [] => true
      | some offset => isOffset offset
      | none => false
  | none => behindTime? s == some []

/-! ### All of them -/

/-- The value of a word. -/
def scalar? (s : List Char) : Option Value :=
  if s = ['t', 'r', 'u', 'e'] then some (.boolean true)
  else if s = ['f', 'a', 'l', 's', 'e'] then some (.boolean false)
  else integer? s <|> floating? s <|> if isMoment s then some .moment else none

end Scaffold.Toml

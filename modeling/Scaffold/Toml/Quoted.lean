import Scaffold.Text.Basic

/-!
# Texts in settings documents

A text is written in one of four forms. Between double quotes a backslash starts an escape; between
single quotes every character stands for itself. With three quotes on each side the text may go over
several lines: a line break right behind the opening quotes does not count, and up to two more
quotes may stand in front of the closing ones. With double quotes, a backslash at the end of a line
swallows all white space up to the next character.

Control characters other than the tab do not occur in any form.

## Main definitions

* `readEscaped`, `readLiteral`: a text of one line behind its opening quote.
* `readEscapedLines`, `readLiteralLines`: a text of several lines behind its opening quotes.
-/

namespace Scaffold.Toml

/-- Whether a character is a space or a tab. -/
def isSpace (c : Char) : Bool := c == ' ' || c == '\t'

/-- Whether a character occurs nowhere but in line breaks. -/
def isControl (c : Char) : Bool :=
  (c.toNat < 0x20 && c != '\t') || c == '\x7f'

/-- Whether a text starts with a line break. -/
def startsLine : List Char → Bool
  | '\n' :: _ => true
  | '\r' :: '\n' :: _ => true
  | _ => false

/-- The text without a line break at its start. -/
def dropLineBreak : List Char → List Char
  | '\n' :: rest => rest
  | '\r' :: '\n' :: rest => rest
  | s => s

/-- The character that a backslash and a character stand for, where the character decides. -/
def simpleEscape? (c : Char) : Option Char :=
  if c = '"' then some '"'
  else if c = '\\' then some '\\'
  else if c = 'b' then some '\x08'
  else if c = 'e' then some '\x1b'
  else if c = 'f' then some '\x0c'
  else if c = 'n' then some '\n'
  else if c = 'r' then some '\r'
  else if c = 't' then some '\t'
  else none

/-- The character with a code given in hexadecimal digits, if there is one. -/
def charOfHex? (digits : List Char) : Option Char := do
  let digits ← digits.mapM (Text.digitIn? 16)
  let code := Text.natOfDigits 16 digits
  if code.isValidChar then some (Char.ofNat code) else none

/-- A text with its rest, one character longer. -/
def pushChar? (c : Option Char) (r : Option (List Char × List Char)) :
    Option (List Char × List Char) := do
  let c ← c
  let (text, rest) ← r
  return (c :: text, rest)

/-- A text of one line with escapes, and what is behind it. -/
def readEscaped : List Char → Option (List Char × List Char)
  | [] => none
  | '"' :: rest => some ([], rest)
  | '\\' :: 'x' :: a :: b :: rest => pushChar? (charOfHex? [a, b]) (readEscaped rest)
  | '\\' :: 'u' :: a :: b :: c :: d :: rest =>
    pushChar? (charOfHex? [a, b, c, d]) (readEscaped rest)
  | '\\' :: 'U' :: a :: b :: c :: d :: e :: f :: g :: h :: rest =>
    pushChar? (charOfHex? [a, b, c, d, e, f, g, h]) (readEscaped rest)
  | '\\' :: c :: rest => pushChar? (simpleEscape? c) (readEscaped rest)
  | c :: rest => if isControl c then none else pushChar? (some c) (readEscaped rest)

/-- A text of one line without escapes, and what is behind it. -/
def readLiteral : List Char → Option (List Char × List Char)
  | [] => none
  | '\'' :: rest => some ([], rest)
  | c :: rest => if isControl c then none else pushChar? (some c) (readLiteral rest)

/-- The lines of a text with escapes, and what is behind them. White space is swallowed where
`swallows` says so. -/
def readEscapedLines : (swallows : Bool) → List Char → Option (List Char × List Char)
  | _, [] => none
  | _, '"' :: '"' :: '"' :: '"' :: '"' :: rest => some (['"', '"'], rest)
  | _, '"' :: '"' :: '"' :: '"' :: rest => some (['"'], rest)
  | _, '"' :: '"' :: '"' :: rest => some ([], rest)
  | _, '\\' :: 'x' :: a :: b :: rest =>
    pushChar? (charOfHex? [a, b]) (readEscapedLines false rest)
  | _, '\\' :: 'u' :: a :: b :: c :: d :: rest =>
    pushChar? (charOfHex? [a, b, c, d]) (readEscapedLines false rest)
  | _, '\\' :: 'U' :: a :: b :: c :: d :: e :: f :: g :: h :: rest =>
    pushChar? (charOfHex? [a, b, c, d, e, f, g, h]) (readEscapedLines false rest)
  | _, '\\' :: c :: rest =>
    if startsLine ((c :: rest).dropWhile isSpace) then readEscapedLines true (c :: rest)
    else pushChar? (simpleEscape? c) (readEscapedLines false rest)
  | swallows, '\r' :: '\n' :: rest =>
    if swallows then readEscapedLines true rest
    else pushChar? (some '\r') (pushChar? (some '\n') (readEscapedLines false rest))
  | swallows, c :: rest =>
    if swallows && (isSpace c || c == '\n') then readEscapedLines true rest
    else if isControl c && c != '\n' then none
    else pushChar? (some c) (readEscapedLines false rest)

/-- The lines of a text without escapes, and what is behind them. -/
def readLiteralLines : List Char → Option (List Char × List Char)
  | [] => none
  | '\'' :: '\'' :: '\'' :: '\'' :: '\'' :: rest => some (['\'', '\''], rest)
  | '\'' :: '\'' :: '\'' :: '\'' :: rest => some (['\''], rest)
  | '\'' :: '\'' :: '\'' :: rest => some ([], rest)
  | '\r' :: '\n' :: rest =>
    pushChar? (some '\r') (pushChar? (some '\n') (readLiteralLines rest))
  | c :: rest =>
    if isControl c && c != '\n' then none else pushChar? (some c) (readLiteralLines rest)

end Scaffold.Toml

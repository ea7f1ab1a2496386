import Scaffold.Toml.Quoted

/-!
# Writing settings documents

A document is written as sections with a blank line between them. A section has a header and then
one assignment on each line. Keys are written as they are.

A text is written in the first form that fits, from the plainest to the one with the most escapes.

## Main definitions

* `TextForm`, `formOf`: the forms of a text and the choice among them.
* `writeText`: a text in its form.
* `Section`, `writeSections`: a document.
-/

namespace Scaffold.Toml

/-- The forms in which a text is written: in double or in single quotes, three of them on each side
if it is long. -/
inductive TextForm where
  | escaped
  | literal
  | escapedLong
  | literalLong
  deriving DecidableEq, Repr

/-- Whether a text holds a character three times in a row. -/
def hasTriple (q : Char) : List Char → Bool
  | a :: b :: c :: rest => (a == q && b == q && c == q) || hasTriple q (b :: c :: rest)
  | _ => false

/-- Whether a text holds a control character that is neither a tab nor a line feed. -/
def hasControl (s : List Char) : Bool :=
  s.any fun c => isControl c && c != '\n'

/-- The form in which a text is written. -/
def formOf (s : List Char) : TextForm :=
  let hasLineFeed := s.contains '\n'
  if !hasControl s && !hasLineFeed && !s.contains '"' && !s.contains '\\' then .escaped
  else if !hasControl s && !hasLineFeed && !s.contains '\'' then .literal
  else if !hasControl s && !s.contains '\\' && !hasTriple '"' s then .escapedLong
  else if !hasControl s && !hasTriple '\'' s then .literalLong
  else if hasLineFeed then .escapedLong
  else .escaped

/-- A number below 256 as two hexadecimal digits with capital letters. -/
def twoHexDigits (n : Nat) : List Char :=
  [Nat.digitChar (n / 16), Nat.digitChar (n % 16)].map Char.toUpper

/-- The escape of a character other than a quote and a line feed, or the character itself. -/
def escapeChar (c : Char) : List Char :=
  if c = '\\' then ['\\', '\\']
  else if c = '\x08' then ['\\', 'b']
  else if c = '\t' then ['\\', 't']
  else if c = '\x0c' then ['\\', 'f']
  else if c = '\r' then ['\\', 'r']
  else if isControl c then ['\\', 'u', '0', '0'] ++ twoHexDigits c.toNat
  else [c]

/-- A character in a text of one line. -/
def escapeInLine (c : Char) : List Char :=
  if c = '"' then ['\\', '"']
  else if c = '\n' then ['\\', 'n']
  else escapeChar c

/-- A text over several lines, behind a number of quotes. Every third quote is escaped. -/
def escapeLines : (quotes : Nat) → List Char → List Char
  | _, [] => []
  | quotes, c :: rest =>
    if c = '"' then
      if quotes = 2 then '\\' :: '"' :: escapeLines 0 rest
      else '"' :: escapeLines (quotes + 1) rest
    else if c = '\n' then '\n' :: escapeLines 0 rest
    else escapeChar c ++ escapeLines 0 rest

/-- The line break behind the opening quotes of a text with line feeds. -/
def openingBreak (s : List Char) : List Char :=
  if s.contains '\n' then ['\n'] else []

/-- A text in a form. -/
def writeIn (form : TextForm) (s : List Char) : List Char :=
  match form with
  | .escaped => '"' :: s.flatMap escapeInLine ++ ['"']
  | .literal => '\'' :: s ++ ['\'']
  | .escapedLong => ['"', '"', '"'] ++ openingBreak s ++ escapeLines 0 s ++ ['"', '"', '"']
  | .literalLong => ['\'', '\'', '\''] ++ openingBreak s ++ s ++ ['\'', '\'', '\'']

/-- A text in its form. -/
def writeText (s : String) : String :=
  String.ofList (writeIn (formOf s.toList) s.toList)

/-- The values that settings have. -/
inductive Scalar where
  | text (s : String)
  | integer (n : Nat)
  | boolean (b : Bool)
  deriving DecidableEq, Repr

/-- A value as it is written. -/
def Scalar.write : Scalar → String
  | .text s => writeText s
  | .integer n => Nat.repr n
  | .boolean true => "true"
  | .boolean false => "false"

/-- A header with the assignments below it. -/
structure Section where
  path : List String
  entries : List (String × Scalar)
  deriving DecidableEq, Repr

/-- A section as it is written. -/
def Section.write (s : Section) : String :=
  "[" ++ ".".intercalate s.path ++ "]\n" ++
    String.join (s.entries.map fun (key, value) => key ++ " = " ++ value.write ++ "\n")

/-- A document as it is written. -/
def writeSections (sections : List Section) : String :=
  "\n".intercalate (sections.map Section.write)

end Scaffold.Toml

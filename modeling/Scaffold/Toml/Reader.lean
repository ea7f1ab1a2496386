import Scaffold.Toml.Quoted
import Scaffold.Toml.Scalar

/-!
# Reading settings documents

A document is a sequence of lines, each with a header, an assignment or nothing but white space and
a comment. Lists and tables in braces may go over several lines and may end in a comma; they are
nested at most eighty deep, and no path has more than eighty keys. A mark for the order of bytes at
the start of a document is ignored.

Every reader returns what it read with the rest of the text, or nothing if the text is not of that
form. The readers of parts within parts are given a number of steps that suffices for the length of
the text.

## Main definitions

* `readPath`: a path of keys with dots between them.
* `readValue`: a value of any kind.
* `readStatements`: the lines of a document.
* `parse`: the table that a document stands for.
-/

namespace Scaffold.Toml

/-- The text behind its leading spaces and tabs. -/
def skipSpaces (s : List Char) : List Char :=
  s.dropWhile isSpace

/-- The text behind white space, line breaks and comments, from inside a comment if `inComment`. -/
def skipLines : (inComment : Bool) → List Char → Option (List Char)
  | _, [] => some []
  | _, '\n' :: rest => skipLines false rest
  | _, '\r' :: '\n' :: rest => skipLines false rest
  | false, c :: rest =>
    if isSpace c then skipLines false rest
    else if c = '#' then skipLines true rest
    else some (c :: rest)
  | true, c :: rest => if isControl c then none else skipLines true rest

/-- The text behind a statement, where a line has to end but for a comment. -/
def endLine (s : List Char) : Option (List Char) :=
  match skipSpaces s with
  | [] => some []
  | c :: rest =>
    if startsLine (c :: rest) || c == '#' then skipLines false (c :: rest) else none

/-- How deep values may be nested, and how long paths may be. -/
def maxDepth : Nat := 80

/-! ### Keys -/

/-- Whether a character may be part of a key without quotes. -/
def isKeyChar (c : Char) : Bool :=
  c.isAlphanum || c == '_' || c == '-'

/-- A key. -/
def readKey : List Char → Option (String × List Char)
  | '"' :: rest => (readEscaped rest).map fun (text, rest) => (String.ofList text, rest)
  | '\'' :: rest => (readLiteral rest).map fun (text, rest) => (String.ofList text, rest)
  | s =>
    match s.takeWhile isKeyChar with
    | [] => none
    | key => some (String.ofList key, s.dropWhile isKeyChar)

/-- At most `most` keys with dots between them. -/
def readKeys : (most : Nat) → List Char → Option (List String × List Char)
  | 0, _ => none
  | most + 1, s => do
    let (key, rest) ← readKey (skipSpaces s)
    match skipSpaces rest with
    | '.' :: rest =>
      let (keys, rest) ← readKeys most rest
      return (key :: keys, rest)
    | rest => return ([key], rest)

/-- A path. -/
def readPath (s : List Char) : Option (List String × List Char) :=
  readKeys maxDepth s

/-! ### Values -/

/-- A text. -/
def readText : List Char → Option (String × List Char)
  | '"' :: '"' :: '"' :: rest =>
    (readEscapedLines false (dropLineBreak rest)).map fun (t, rest) => (String.ofList t, rest)
  | '\'' :: '\'' :: '\'' :: rest =>
    (readLiteralLines (dropLineBreak rest)).map fun (t, rest) => (String.ofList t, rest)
  | '"' :: rest => (readEscaped rest).map fun (t, rest) => (String.ofList t, rest)
  | '\'' :: rest => (readLiteral rest).map fun (t, rest) => (String.ofList t, rest)
  | _ => none

/-- The word of a scalar without quotes, and what is behind it. A time may stand behind a date after
a space. -/
def scalarWord (s : List Char) : List Char × List Char :=
  let word := s.takeWhile isScalarChar
  match s.dropWhile isScalarChar with
  | ' ' :: c :: rest =>
    if isDate word && c.isDigit then
      (word ++ ' ' :: (c :: rest).takeWhile isScalarChar, (c :: rest).dropWhile isScalarChar)
    else (word, ' ' :: c :: rest)
  | rest => (word, rest)

mutual

/-- A value, which may hold others down to some depth. -/
def readValue : (steps depth : Nat) → List Char → Option (Value × List Char)
  | 0, _, _ => none
  | steps + 1, depth, s =>
    match s with
    | '[' :: rest =>
      match depth with
      | 0 => none
      | depth + 1 => (readItems steps depth rest).map fun (items, rest) => (.array items, rest)
    | '\x7b' :: rest =>
      match depth with
      | 0 => none
      | depth + 1 => do
        let (assignments, rest) ← readBraces steps depth rest
        let members ← bracesOf assignments
        return (.table .braces members, rest)
    | c :: rest =>
      if c = '"' || c = '\'' then
        (readText (c :: rest)).map fun (text, rest) => (.string text, rest)
      else
        let (word, rest) := scalarWord (c :: rest)
        (scalar? word).map fun value => (value, rest)
    | [] => none

/-- The items of a list behind its bracket or a comma. -/
def readItems : (steps depth : Nat) → List Char → Option (List Value × List Char)
  | 0, _, _ => none
  | steps + 1, depth, s => do
    match ← skipLines false s with
    | ']' :: rest => return ([], rest)
    | s =>
      let (item, rest) ← readValue steps depth s
      match ← skipLines false rest with
      | ']' :: rest => return ([item], rest)
      | ',' :: rest =>
        let (items, rest) ← readItems steps depth rest
        return (item :: items, rest)
      | _ => none

/-- The assignments of a table behind its brace or a comma. -/
def readBraces : (steps depth : Nat) → List Char → Option (List (List String × Value) × List Char)
  | 0, _, _ => none
  | steps + 1, depth, s => do
    match ← skipLines false s with
    | '\x7d' :: rest => return ([], rest)
    | s =>
      let (path, rest) ← readPath s
      let '=' :: rest ← skipLines false rest | none
      let (value, rest) ← readValue steps depth (← skipLines false rest)
      match ← skipLines false rest with
      | '\x7d' :: rest => return ([(path, value)], rest)
      | ',' :: rest =>
        let (assignments, rest) ← readBraces steps depth rest
        return ((path, value) :: assignments, rest)
      | _ => none

end

/-! ### Documents -/

/-- A statement. -/
def readStatement (steps : Nat) (s : List Char) : Option (Statement × List Char) :=
  match s with
  | '[' :: '[' :: rest => do
    let (path, rest) ← readPath rest
    let ']' :: ']' :: rest := rest | none
    return (.element path, rest)
  | '[' :: rest => do
    let (path, rest) ← readPath rest
    let ']' :: rest := rest | none
    return (.header path, rest)
  | _ => do
    let (path, rest) ← readPath s
    let '=' :: rest := rest | none
    let (value, rest) ← readValue steps maxDepth (skipSpaces rest)
    return (.assignment path value, rest)

/-- The statements of a document, the first of which stands at the start of the text. -/
def readStatements : (steps : Nat) → List Char → Option (List Statement)
  | 0, _ => none
  | _, [] => some []
  | steps + 1, s => do
    let (statement, rest) ← readStatement steps s
    let rest ← endLine rest
    let statements ← readStatements steps rest
    return statement :: statements

/-- The text without a mark for the order of bytes at its start. -/
def dropByteOrderMark : List Char → List Char
  | '\uFEFF' :: rest => rest
  | s => s

/-- The table that a document stands for. -/
def parse (text : String) : Option Members := do
  let s ← skipLines false (dropByteOrderMark text.toList)
  let statements ← readStatements (2 * s.length + 2) s
  tableOf statements

end Scaffold.Toml

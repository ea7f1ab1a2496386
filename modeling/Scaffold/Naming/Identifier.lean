import Scaffold.Text.Basic
import Scaffold.Unicode.Case

/-!
# Names

A free-form name from a diagram is read as a list of words. Everything that is not a letter or a
number separates words and is dropped. Inside a run of letters and numbers a word ends where the
case or the kind of the characters changes: between a small and a capital letter, between a letter
and a digit in either order, and before the last capital of an acronym that runs into a word with a
small second letter. Only the digits 0 to 9 count as digits here, and letters of scripts without
case never start or end a word.

What counts as one letter here is a character with the marks behind it. The runs are cut with single
spaces between them, so a mark at the start of a run stands with that space, which then separates no
words and stays in the name.

The words of a name are joined into a type identifier with every word capitalized, or into a field
identifier whose first word is all lower case. Three escapes keep the result an identifier: a name
without words gets a fixed word, a result that starts with a numeral gets that word in front, and a
field identifier that would be a reserved word of the generated language gets a suffix.

Fields that hold collections, the resource paths of the controllers and the tables of the entities
carry the plural of a field name. The rules look at the end of the name without regard to ASCII
case, and the letters in front of the suffix stay as they are.

A package name is a sequence of identifiers with dots between them. The identifiers are made of
ASCII letters, digits and underscores and do not start with a digit.

## Main definitions

* `words`: the words of a name.
* `entityName`: the type identifier of a name, such as `OrderItem` for `order item`.
* `fieldName`: the field identifier of a name, such as `orderItem`.
* `setter`, `getter`: the accessors of a field.
* `plural`: the English plural of a field name.
* `isPackage`: whether a text is a package name.
-/

namespace Scaffold.Naming

/-! ### Words -/

/-- The letters of a text: its characters, whatever they are, each with the marks behind it. -/
def letters (s : List Char) : List (List Char) :=
  s.splitBy fun _ c => Unicode.isMark c

/-- A letter with case that is its own upper case form. -/
def isUpperLetter (a : List Char) : Bool :=
  a.flatMap Unicode.upper != Text.lowercaseChars a && a.flatMap Unicode.upper == a

/-- A letter with case that is its own lower case form. -/
def isLowerLetter (a : List Char) : Bool :=
  a.flatMap Unicode.upper != Text.lowercaseChars a && Text.lowercaseChars a == a

/-- A digit without marks. -/
def isDigit (a : List Char) : Bool :=
  a.all Char.isDigit

/-- Whether a word ends between two neighbouring letters, given the letter behind them. -/
def wordEndsBetween (a b : List Char) (next : Option (List Char)) : Bool :=
  (isLowerLetter a && isUpperLetter b) ||
  (isUpperLetter a && isUpperLetter b && next.any isLowerLetter) ||
  (isLowerLetter a && isDigit b) ||
  (isUpperLetter a && isDigit b) ||
  (isDigit a && isLowerLetter b) ||
  (isDigit a && isUpperLetter b)

/-- Whether a word ends behind a letter, given the letters that follow. -/
def wordEndsAfter (a : List Char) : List (List Char) → Bool
  | [] => false
  | b :: rest => wordEndsBetween a b rest.head?

/-- The words of a text, given by its letters. A space ends a word and is dropped, so a word is
empty where nothing stands in front of a space or behind it. -/
def cutWords : List (List Char) → List (List Char)
  | [] => [[]]
  | a :: rest =>
    if a = [' '] then
      [] :: cutWords rest
    else
      match cutWords rest with
      | [] => [a]
      | word :: words =>
        if wordEndsAfter a rest then a :: word :: words else (a ++ word) :: words

/-- What is neither a letter nor a number separates words. -/
def isSeparator (c : Char) : Bool :=
  !Unicode.isAlphanumeric c

/-- The runs of letters and numbers of a name with single spaces between them. -/
def spaced (raw : List Char) : List Char :=
  [' '].intercalate (Text.fields isSeparator raw)

/-- The words of a free-form name. -/
def words (raw : List Char) : List (List Char) :=
  (cutWords (letters (spaced raw))).filter fun word => !word.isEmpty

/-! ### Identifiers of types and fields -/

/-- The reserved words of the generated language, its literals included. -/
def reservedWords : List String :=
  ["abstract", "assert", "boolean", "break", "byte", "case", "catch", "char", "class", "const",
   "continue", "default", "do", "double", "else", "enum", "extends", "final", "finally",
   "float", "for", "goto", "if", "implements", "import", "instanceof", "int", "interface",
   "long", "native", "new", "package", "private", "protected", "public", "return", "short",
   "static", "strictfp", "super", "switch", "synchronized", "this", "throw", "throws",
   "transient", "try", "void", "volatile", "while", "true", "false", "null"]

/-- A word with its first letter in upper case and the others in lower case. -/
def capitalizedWord (word : List Char) : List Char :=
  match letters word with
  | [] => []
  | first :: rest => first.flatMap Unicode.upper ++ Text.lowercaseChars rest.flatten

/-- The words of a name, every one capitalized and joined. -/
def pascalCase (words : List (List Char)) : List Char :=
  words.flatMap capitalizedWord

/-- The words of a name joined, the first in lower case and the others capitalized. -/
def camelCase : List (List Char) → List Char
  | [] => []
  | word :: words => Text.lowercaseChars word ++ pascalCase words

/-- Whether a text starts with a numeral. -/
def startsWithNumeral (s : List Char) : Bool :=
  s.head?.any Unicode.isNumeric

/-- The type identifier of a name. -/
def entityName (raw : String) : String :=
  match words raw.toList with
  | [] => "Entity"
  | word :: others =>
    let name := pascalCase (word :: others)
    if startsWithNumeral name then "Entity" ++ String.ofList name else String.ofList name

/-- The field identifier of a name. -/
def fieldName (raw : String) : String :=
  match words raw.toList with
  | [] => "field"
  | word :: others =>
    let name := camelCase (word :: others)
    if startsWithNumeral name then "field" ++ String.ofList name
    else if String.ofList name ∈ reservedWords then String.ofList name ++ "Value"
    else String.ofList name

/-- A text with its first character in upper case and the rest as it is. -/
def capitalize (s : String) : String :=
  match s.toList with
  | [] => ""
  | c :: rest => String.ofList (Unicode.upper c ++ rest)

/-- The name of the method that sets a field. -/
def setter (field : String) : String :=
  "set" ++ capitalize field

/-- The name of the method that reads a field. -/
def getter (field : String) : String :=
  "get" ++ capitalize field

/-! ### Plurals -/

/-- The vowels after which a final y stays. -/
def isVowel (c : Char) : Bool :=
  c == 'a' || c == 'e' || c == 'i' || c == 'o' || c == 'u'

/-- The plural of a text: a final y behind anything but a vowel becomes ies, a sibilant ending takes
es, and everything else takes s. The text without characters stays empty. -/
def pluralChars (s : List Char) : List Char :=
  match (s.map Char.toLower).reverse with
  | [] => []
  | ['y'] => s.dropLast ++ ['i', 'e', 's']
  | 'y' :: before :: _ =>
    if isVowel before then s ++ ['s'] else s.dropLast ++ ['i', 'e', 's']
  | 's' :: _ => s ++ ['e', 's']
  | 'x' :: _ => s ++ ['e', 's']
  | 'z' :: _ => s ++ ['e', 's']
  | 'h' :: 'c' :: _ => s ++ ['e', 's']
  | 'h' :: 's' :: _ => s ++ ['e', 's']
  | _ => s ++ ['s']

/-- The plural of a field name. -/
def plural (field : String) : String :=
  String.ofList (pluralChars field.toList)

/-- The name under which the instances of an entity are addressed and stored: the plural of its
field name in lower case, such as `orderitems` for `OrderItem`. -/
def resourceName (entity : String) : String :=
  Text.lowercase (plural (fieldName entity))

/-! ### Package names -/

/-- Whether a character may start a segment of a package name. -/
def isSegmentStart (c : Char) : Bool :=
  c.isAlpha || c == '_'

/-- Whether a character may continue a segment of a package name. -/
def isSegmentRest (c : Char) : Bool :=
  c.isAlphanum || c == '_'

/-- Whether a text is one segment of a package name. -/
def isSegment : List Char → Bool
  | [] => false
  | c :: rest => isSegmentStart c && rest.all isSegmentRest

/-- Whether a text is a package name. -/
def isPackage (s : String) : Bool :=
  (Text.splitAt (· == '.') s.toList).all isSegment

end Scaffold.Naming

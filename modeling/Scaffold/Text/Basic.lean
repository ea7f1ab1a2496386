import Scaffold.Unicode.Classes

/-!
# Texts

What is done with texts in all parts of the library. Names, package names and paths are read by
cutting a text at the characters of some class, and the pieces between the separators are kept in
order, the empty ones included, so that the number of pieces is always one more than the number of
separators. Identifiers, names and type tags are compared without the white space around them, and
type tags and relationship kinds also without regard to ASCII case. Both document formats read
digits up to base sixteen. Generated files are built as lists of lines.

## Main definitions

* `Text.splitAt`, `Text.fields`: the pieces of a text, and those of them that are not empty.
* `Text.trim`, `Text.asciiLower`: a text without the white space at its ends, and in lower case.
* `Text.hexDigit?`, `Text.natOfDigits`: the values of digits.
* `textOfLines`: the text of some lines.
-/

namespace Scaffold

namespace Text

/-! ### Cutting at separators -/

/-- The pieces of a text between the characters that satisfy `isSeparator`. -/
def splitAt (isSeparator : Char → Bool) : List Char → List (List Char)
  | [] => [[]]
  | c :: rest =>
    if isSeparator c then
      [] :: splitAt isSeparator rest
    else
      match splitAt isSeparator rest with
      | [] => [[c]]
      | piece :: pieces => (c :: piece) :: pieces

/-- The nonempty pieces of a text between separators. -/
def fields (isSeparator : Char → Bool) (s : List Char) : List (List Char) :=
  (splitAt isSeparator s).filter fun piece => !piece.isEmpty

/-! ### Surrounding white space and ASCII case -/

/-- A text without the white space at its two ends. -/
def trimChars (s : List Char) : List Char :=
  ((s.dropWhile Unicode.isWhiteSpace).reverse.dropWhile Unicode.isWhiteSpace).reverse

/-- A text without the white space at its two ends. -/
def trim (s : String) : String :=
  String.ofList (trimChars s.toList)

/-- A text with the letters A to Z in lower case and every other character as it is. -/
def asciiLower (s : String) : String :=
  String.ofList (s.toList.map Char.toLower)

/-! ### Digits -/

/-- The value of a hexadecimal digit, in either case. -/
def hexDigit? (c : Char) : Option Nat :=
  if c.isDigit then some (c.toNat - '0'.toNat)
  else if 'a' ≤ c ∧ c ≤ 'f' then some (c.toNat - 'a'.toNat + 10)
  else if 'A' ≤ c ∧ c ≤ 'F' then some (c.toNat - 'A'.toNat + 10)
  else none

/-- The value of a digit in a base. -/
def digitIn? (base : Nat) (c : Char) : Option Nat :=
  (hexDigit? c).filter (· < base)

/-- The number that digits in a base stand for. -/
def natOfDigits (base : Nat) (digits : List Nat) : Nat :=
  digits.foldl (fun n d => n * base + d) 0

end Text

/-! ### Lines -/

/-- The text of a list of lines. Every line ends in a line feed, the last one included. A line may
itself hold line feeds, where a text of the diagram does. -/
def textOfLines (lines : List String) : String :=
  String.join (lines.map fun line => line ++ "\n")

end Scaffold

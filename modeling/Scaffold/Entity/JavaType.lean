import Scaffold.Diagram.Index

/-!
# Types of the generated code

A type tag of a diagram stands for one of ten known types, for no value, or for a class. The known
tags are compared without regard to case and surrounding white space; every other tag is read as the
name of a class and survives only if the diagram has that class.

## Main definitions

* `KnownType.ofTag?`: the known type of a tag.
* `referenceType`, `typeInDiagram`, `attributeType`: the type of an arbitrary tag, in three
  settings.
* `placeholder`: the literal that a stub with a given return type returns.
-/

namespace Scaffold

/-- The types that type tags name directly. -/
inductive KnownType where
  | int
  | long
  | double
  | bigDecimal
  | string
  | char
  | boolean
  | localDate
  | localDateTime
  | void
  deriving DecidableEq, Repr

namespace KnownType

/-- How a type is written in the generated code. -/
def text : KnownType → String
  | .int => "int"
  | .long => "long"
  | .double => "double"
  | .bigDecimal => "BigDecimal"
  | .string => "String"
  | .char => "char"
  | .boolean => "boolean"
  | .localDate => "LocalDate"
  | .localDateTime => "LocalDateTime"
  | .void => "void"

/-- The lower case tags of a type. -/
def tags : KnownType → List String
  | .int => ["int", "integer", "short", "byte", "number"]
  | .long => ["long", "bigint"]
  | .double => ["float", "double", "real"]
  | .bigDecimal => ["decimal", "bigdecimal"]
  | .string => ["string", "str", "text", "varchar"]
  | .char => ["char", "character"]
  | .boolean => ["bool", "boolean"]
  | .localDate => ["date"]
  | .localDateTime => ["datetime", "timestamp"]
  | .void => ["", "void", "none", "unit"]

/-- All known types. -/
def all : List KnownType :=
  [.int, .long, .double, .bigDecimal, .string, .char, .boolean, .localDate, .localDateTime, .void]

/-- The known type of a tag; a blank tag stands for no value. -/
def ofTag? (tag : String) : Option KnownType :=
  let key := Text.asciiLower (Text.trim tag)
  all.find? fun t => decide (key ∈ t.tags)

end KnownType

/-! ### Written types -/

/-- The type of values about which nothing is known. -/
def objectType : String := "Object"

/-- The type of generated keys. -/
def numericKeyType : String := "Long"

/-- The type of natural keys. -/
def textKeyType : String := "String"

/-- Whether a written type holds whole numbers. -/
def holdsInteger (type : String) : Bool :=
  type == KnownType.int.text || type == KnownType.long.text

/-- Whether a written type holds floating point numbers. -/
def holdsFloat (type : String) : Bool :=
  type == KnownType.double.text

/-- Whether a written type holds text or a single character. -/
def holdsText (type : String) : Bool :=
  type == KnownType.string.text || type == KnownType.char.text

/-- Whether a written type stands for no value. -/
def isNoValue (type : String) : Bool :=
  type == KnownType.void.text

/-- The qualified names of the types that have to be imported. -/
def qualifiedNames : List (String × String) :=
  [(KnownType.bigDecimal.text, "java.math.BigDecimal"),
   (KnownType.localDate.text, "java.time.LocalDate"),
   (KnownType.localDateTime.text, "java.time.LocalDateTime")]

/-- The qualified name under which a written type is imported, if it has to be. -/
def qualifiedName? (type : String) : Option String :=
  qualifiedNames.lookup type

/-- The literal that a stub with a return type returns. -/
def placeholder (type : String) : String :=
  if holdsInteger type then "0"
  else if holdsFloat type then "0.0"
  else if type = KnownType.boolean.text then "false"
  else if type = KnownType.char.text then "'\\0'"
  else "null"

/-! ### Types of tags -/

/-- The type of a tag on its own: an unknown tag names a class, and a tag without letters and
numbers says nothing. -/
def referenceType (tag : String) : String :=
  match KnownType.ofTag? tag with
  | some known => known.text
  | none => if tag.toList.any Unicode.isAlphanumeric then Naming.entityName tag else objectType

/-- The type of a tag in a diagram, where `isEntity` says which classes there are. -/
def typeInDiagram (isEntity : String → Bool) (tag : String) : String :=
  match KnownType.ofTag? tag with
  | some known => known.text
  | none => if isEntity (referenceType tag) then referenceType tag else objectType

/-- The type of an attribute. A field always has a value, so a tag for no value stands for text. -/
def attributeType (isEntity : String → Bool) (tag : String) : String :=
  let type := typeInDiagram isEntity tag
  if isNoValue type then KnownType.string.text else type

end Scaffold

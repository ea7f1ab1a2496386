import Scaffold.Text.Quoted

/-!
# Reading records

Diagrams and settings are read from documents whose objects stand for records: structures with named
fields, some of which have a default. The rules for fields are the same for every kind of record and
every format. Members with other names are ignored, a field that is not given takes its default, and
a record may also be written as the list of its fields.

A record is read into a draft, which knows which fields were given, and finished when the object
ends.

## Main definitions

* `Record.Found`: what stands where a value of another type is expected.
* `Record.Error`: what can be wrong with the content of a document.
* `Record.Field`, `RecordType`: the fields of a kind of record and how a draft takes them.
-/

namespace Scaffold

namespace Record

/-- What is found in a document where something else is expected. A floating point number is given
as it is shown in messages. -/
inductive Found where
  | null
  | boolean (b : Bool)
  | integer (n : Int)
  | floating (text : String)
  | string (s : String)
  | sequence
  | map
  deriving DecidableEq, Repr

/-- How a found value is shown. -/
def Found.text : Found → String
  | .null => "null"
  | .boolean true => "boolean `true`"
  | .boolean false => "boolean `false`"
  | .integer n => "integer `" ++ Int.repr n ++ "`"
  | .floating text => "floating point `" ++ text ++ "`"
  | .string s => "string " ++ Text.quoted s
  | .sequence => "sequence"
  | .map => "map"

/-- What is wrong with the content of a document. -/
inductive Error where
  | missingField (name : String)
  | duplicateField (name : String)
  | wrongType (found : Found) (expected : String)
  | wrongValue (found : Found) (expected : String)
  | tooShort (length : Nat) (record : String) (fields : Nat)
  deriving DecidableEq, Repr

/-- The phrase for a record with a number of fields. -/
def recordPhrase (record : String) (fields : Nat) : String :=
  "struct " ++ record ++ " with " ++ Nat.repr fields ++
    (if fields = 1 then " element" else " elements")

/-- The message of an error. -/
def Error.message : Error → String
  | .missingField name => "missing field `" ++ name ++ "`"
  | .duplicateField name => "duplicate field `" ++ name ++ "`"
  | .wrongType found expected => "invalid type: " ++ found.text ++ ", expected " ++ expected
  | .wrongValue found expected => "invalid value: " ++ found.text ++ ", expected " ++ expected
  | .tooShort length record fields =>
    "invalid length " ++ Nat.repr length ++ ", expected " ++ recordPhrase record fields

/-- A field of a record: its name, whether it has to be given, whether a draft already has it, and
how a draft takes its value. Values are of type `ν` and errors of type `ε`. -/
structure Field (ν ε Draft : Type) where
  name : String
  isRequired : Bool
  isGiven : Draft → Bool
  put : ν → Draft → Except ε Draft

/-- The field that a draft keeps where `get` and `set` say, with values read by `read`. -/
def Field.reading {ν ε Draft β : Type} (name : String) (isRequired : Bool)
    (read : ν → Except ε β) (get : Draft → Option β) (set : Draft → β → Draft) :
    Field ν ε Draft where
  name := name
  isRequired := isRequired
  isGiven draft := (get draft).isSome
  put value draft := (read value).map (set draft)

end Record

/-- A kind of record with its fields in order of declaration. -/
structure RecordType (ν ε Draft α : Type) where
  name : String
  fields : List (Record.Field ν ε Draft)
  blank : Draft
  finish : Draft → α

namespace RecordType

variable {ν ε Draft α : Type}

/-- What is expected where a record of this type should be. -/
def phrase (r : RecordType ν ε Draft α) : String :=
  "struct " ++ r.name

/-- The field of a name. -/
def field? (r : RecordType ν ε Draft α) (name : String) : Option (Record.Field ν ε Draft) :=
  r.fields.find? fun f => f.name == name

/-- The name of the first field that has to be given and is not. -/
def missing? (r : RecordType ν ε Draft α) (draft : Draft) : Option String :=
  (r.fields.find? fun f => f.isRequired && !f.isGiven draft).map Record.Field.name

/-- The record of a draft that an object gave. -/
def close (r : RecordType ν ε Draft α) (draft : Draft) : Except Record.Error α :=
  match r.missing? draft with
  | some name => .error (.missingField name)
  | none => .ok (r.finish draft)

/-- The position of the first of some fields, the first of which has position `index`, that has to
be given. -/
def firstRequired (index : Nat) : List (Record.Field ν ε Draft) → Option Nat
  | [] => none
  | f :: rest => if f.isRequired then some index else firstRequired (index + 1) rest

/-- The record of a draft that a list gave, whose fields from position `length` on were not in
it. -/
def closeShort (r : RecordType ν ε Draft α) (length : Nat) (draft : Draft) :
    Except Record.Error α :=
  match firstRequired length (r.fields.drop length) with
  | some index => .error (.tooShort index r.name r.fields.length)
  | none => .ok (r.finish draft)

end RecordType

end Scaffold

import Scaffold.Json.Judge
import Scaffold.Json.Reader

/-!
# Records in documents

A record is read from an object or from the list of its fields. The members of an object may come in
any order. They are judged in the order of the text: the key of a member first, then whether its
field was given before, then its value. A field that is not there is missed only when the object has
ended well.

## Main definitions

* `RecordType.ofObject`, `RecordType.ofList`: a record from its members or its items.
* `RecordType.ofNode`: a record from any value.
* `RecordType.parse`: a record from a whole document.
-/

namespace Scaffold

namespace Json

/-- The fields of a record that is read from a document. -/
abbrev Field (Draft : Type) := Record.Field Node Error Draft

/-- What is wrong with an object behind its last complete member, but for its last key. -/
def ObjectEnd.error? : ObjectEnd → Option SyntaxError
  | .closed | .cut => none
  | .endOfText => some .endInObject
  | .junk => some .expectedCommaOrObjectEnd
  | .notKey => some .keyNotString
  | .endOfTextAfterComma => some .endInValue
  | .closedAfterComma => some .trailingComma
  | .brokenKey key => key.skipError?
  | .noColon _ true => some .endInObject
  | .noColon _ false => some .expectedColon

/-- The key that an object ends in, if it ends in a member without a value. -/
def ObjectEnd.lastKey? : ObjectEnd → Option RawString
  | .brokenKey key | .noColon key _ => some key
  | _ => none

/-- What is wrong with a list of fields behind the last one. -/
def ArrayEnd.extraError? : ArrayEnd → Option SyntaxError
  | .closed | .cut => none
  | .endOfText => some .endInList
  | .junk | .endOfTextAfterComma => some .trailingCharacters
  | .closedAfterComma => some .trailingComma

end Json

namespace RecordType

open Json (Node Error RawString ObjectEnd ArrayEnd SyntaxError)

variable {Draft α : Type}

/-- The field of a key, unless it was given before. A key that names no field has none. -/
def fieldOfKey (r : RecordType Node Error Draft α) (draft : Draft) (key : RawString) :
    Except Error (Option (Json.Field Draft)) :=
  match key.text with
  | .error e => .error (.form e)
  | .ok name =>
    match r.field? name with
    | none => .ok none
    | some f => if f.isGiven draft then .error (.content (.duplicateField name)) else .ok (some f)

/-- A draft with one more member taken. -/
def takeMember (r : RecordType Node Error Draft α) (draft : Draft) (member : RawString × Node) :
    Except Error Draft :=
  match r.fieldOfKey draft member.1 with
  | .error e => .error e
  | .ok (some f) => f.put member.2 draft
  | .ok none => member.2.skip.map fun _ => draft

/-- A draft with some members taken, behind which an object ends. -/
def takeMembers (r : RecordType Node Error Draft α) (ending : ObjectEnd) (draft : Draft) :
    List (RawString × Node) → Except Error Draft
  | [] =>
    match ending.lastKey?.map (r.fieldOfKey draft) with
    | some (.error e) => .error e
    | _ =>
      match ending.error? with
      | some e => .error (.form e)
      | none => .ok draft
  | member :: rest =>
    match r.takeMember draft member with
    | .error e => .error e
    | .ok draft => takeMembers r ending draft rest

/-- The record that an object stands for. -/
def ofObject (r : RecordType Node Error Draft α) (members : List (RawString × Node))
    (ending : ObjectEnd) : Except Error α :=
  match r.takeMembers ending r.blank members with
  | .error e => .error e
  | .ok draft => (r.close draft).mapError .content

/-- A draft with the items of a list taken as its next fields, and the items that are left. -/
def takeItems : List (Json.Field Draft) → Draft → List Node → Except Error (Draft × List Node)
  | f :: fields, draft, item :: items =>
    match f.put item draft with
    | .error e => .error e
    | .ok draft => takeItems fields draft items
  | _, draft, items => .ok (draft, items)

/-- The record that a list of fields stands for. -/
def ofList (r : RecordType Node Error Draft α) (items : List Node) (ending : ArrayEnd) :
    Except Error α :=
  match takeItems r.fields r.blank items with
  | .error e => .error e
  | .ok (_, _ :: _) => .error (.form .trailingCharacters)
  | .ok (draft, []) =>
    if items.length < r.fields.length then
      match ending.error? with
      | some e => .error (.form e)
      | none => (r.closeShort items.length draft).mapError .content
    else
      match ending.extraError? with
      | some e => .error (.form e)
      | none => .ok (r.finish draft)

/-- The record that a value stands for. -/
def ofNode (r : RecordType Node Error Draft α) : Node → Except Error α
  | .object members ending => r.ofObject members ending
  | .array items ending => r.ofList items ending
  | node => .error (node.wrongType r.phrase)

/-- The record that a document stands for. Behind it there is nothing but white space. -/
def parse (r : RecordType Node Error Draft α) (text : String) : Except Error α :=
  let (node, rest) := Json.read text.toList
  match r.ofNode node with
  | .error e => .error e
  | .ok value =>
    if (Json.skipBlanks (rest.getD [])).isEmpty then .ok value
    else .error (.form .trailingCharacters)

end RecordType

end Scaffold

import Scaffold.Diagram.Basic
import Scaffold.Json.Object
import Scaffold.Json.Value

/-!
# Diagrams as documents

How a diagram is written as a document and read from one. A class needs a name, an attribute and an
operation too, and a relationship needs its type and its two ends; everything else has a default.
Only what may be absent may also be given as null.

## Main definitions

* `Diagram.toDocument`: the document of a diagram.
* `diagramRecord`: the record type of diagrams, with those of their parts.
* `Diagram.parse`: the diagram of a text.
-/

namespace Scaffold

open Json (Value Node Error)
open Record (Field)

/-! ### Writing -/

/-- The document of a text that may be absent. -/
def optionalDocument : Option String → Value
  | none => .null
  | some s => .string s

/-- The document of an attribute. -/
def Attribute.toDocument (a : Attribute) : Value :=
  .object [("name", .string a.name), ("type", .string a.tag)]

/-- The document of an operation. -/
def Method.toDocument (m : Method) : Value :=
  .object
    [("name", .string m.name),
     ("returnType", optionalDocument m.returnType),
     ("parameters", optionalDocument m.parameters)]

/-- The document of a class. -/
def ClassBox.toDocument (c : ClassBox) : Value :=
  .object
    [("id", .string c.id),
     ("name", .string c.name),
     ("attributes", .array (c.attributes.map Attribute.toDocument)),
     ("methods", .array (c.methods.map Method.toDocument))]

/-- The document of a relationship, in which an absent identifier is left out. -/
def Relationship.toDocument (r : Relationship) : Value :=
  .object <|
    (r.id.map fun id => ("id", Value.string id)).toList ++
    [("type", .string r.kind.text),
     ("sourceId", .string r.sourceId),
     ("targetId", .string r.targetId),
     ("labels", .array (r.labels.map .string))]

/-- The document of a diagram. -/
def Diagram.toDocument (d : Diagram) : Value :=
  .object
    [("classes", .array (d.classes.map ClassBox.toDocument)),
     ("relationships", .array (d.relationships.map Relationship.toDocument))]

/-! ### Reading -/

/-- What is known of an attribute. -/
structure AttributeDraft where
  name : Option String
  tag : Option String
  deriving DecidableEq, Repr

/-- Attributes as records. -/
def attributeRecord : RecordType Node Error AttributeDraft Attribute where
  name := "Attribute"
  fields :=
    [.reading "name" true Node.text (·.name) fun a v => { a with name := some v },
     .reading "type" false Node.text (·.tag) fun a v => { a with tag := some v }]
  blank := ⟨none, none⟩
  finish a := ⟨a.name.getD "", a.tag.getD ""⟩

/-- What is known of an operation. -/
structure MethodDraft where
  name : Option String
  returnType : Option (Option String)
  parameters : Option (Option String)
  deriving DecidableEq, Repr

/-- Operations as records. -/
def methodRecord : RecordType Node Error MethodDraft Method where
  name := "Method"
  fields :=
    [.reading "name" true Node.text (·.name) fun m v => { m with name := some v },
     .reading "returnType" false Node.optionalText (·.returnType)
       fun m v => { m with returnType := some v },
     .reading "parameters" false Node.optionalText (·.parameters)
       fun m v => { m with parameters := some v }]
  blank := ⟨none, none, none⟩
  finish m := ⟨m.name.getD "", m.returnType.getD none, m.parameters.getD none⟩

/-- What is known of a class. -/
structure ClassDraft where
  id : Option String
  name : Option String
  attributes : Option (List Attribute)
  methods : Option (List Method)
  deriving DecidableEq, Repr

/-- Classes as records. -/
def classRecord : RecordType Node Error ClassDraft ClassBox where
  name := "UmlClass"
  fields :=
    [.reading "id" false Node.text (·.id) fun c v => { c with id := some v },
     .reading "name" true Node.text (·.name) fun c v => { c with name := some v },
     .reading "attributes" false (Node.list attributeRecord.ofNode) (·.attributes)
       fun c v => { c with attributes := some v },
     .reading "methods" false (Node.list methodRecord.ofNode) (·.methods)
       fun c v => { c with methods := some v }]
  blank := ⟨none, none, none, none⟩
  finish c := ⟨c.id.getD "", c.name.getD "", c.attributes.getD [], c.methods.getD []⟩

/-- The kind that the text of a value names. -/
def kindOfNode (node : Node) : Except Error RelationshipKind :=
  node.text.map RelationshipKind.ofText

/-- What is known of a relationship. -/
structure RelationshipDraft where
  id : Option (Option String)
  kind : Option RelationshipKind
  sourceId : Option String
  targetId : Option String
  labels : Option (List String)
  deriving DecidableEq, Repr

/-- Relationships as records. -/
def relationshipRecord : RecordType Node Error RelationshipDraft Relationship where
  name := "Relationship"
  fields :=
    [.reading "id" false Node.optionalText (·.id) fun r v => { r with id := some v },
     .reading "type" true kindOfNode (·.kind) fun r v => { r with kind := some v },
     .reading "sourceId" true Node.text (·.sourceId) fun r v => { r with sourceId := some v },
     .reading "targetId" true Node.text (·.targetId) fun r v => { r with targetId := some v },
     .reading "labels" false (Node.list Node.text) (·.labels)
       fun r v => { r with labels := some v }]
  blank := ⟨none, none, none, none, none⟩
  finish r :=
    { id := r.id.getD none
      kind := r.kind.getD (.unsupported "")
      sourceId := r.sourceId.getD ""
      targetId := r.targetId.getD ""
      labels := r.labels.getD [] }

/-- What is known of a diagram. -/
structure DiagramDraft where
  classes : Option (List ClassBox)
  relationships : Option (List Relationship)
  deriving DecidableEq, Repr

/-- Diagrams as records. -/
def diagramRecord : RecordType Node Error DiagramDraft Diagram where
  name := "UmlSchema"
  fields :=
    [.reading "classes" false (Node.list classRecord.ofNode) (·.classes)
       fun d v => { d with classes := some v },
     .reading "relationships" false (Node.list relationshipRecord.ofNode) (·.relationships)
       fun d v => { d with relationships := some v }]
  blank := ⟨none, none⟩
  finish d := ⟨d.classes.getD [], d.relationships.getD []⟩

/-- The diagram of a text. -/
def Diagram.parse (text : String) : Except Error Diagram :=
  diagramRecord.parse text

end Scaffold

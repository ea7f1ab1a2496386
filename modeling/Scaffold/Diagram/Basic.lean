import Scaffold.Naming.Identifier

/-!
# Class diagrams

A class diagram is a list of classes and a list of relationships between them, both in the order in
which they were declared. Nothing is assumed about the texts in it: names may have any case and
spacing, identifiers may be blank or shared, and a relationship may point at a class that is not
there.

In the normal form of a diagram identifiers, names, type tags and labels are taken without
surrounding white space, and a class whose identifier is blank is identified by the type identifier
of its name. The kind of a relationship and the parameters of an operation are kept as they are. A
diagram can only be generated from if its classes have different identifiers. Blank identifiers do
not count, which is why the check is made on the normal form, where there are none.

## Main definitions

* `Diagram`: classes and the relationships between them.
* `Diagram.normalize`: the normal form of a diagram.
* `Diagram.duplicate?`: the first class whose identifier repeats that of an earlier class.
-/

namespace Scaffold

/-- An attribute of a class: its name and its type tag. -/
structure Attribute where
  name : String
  tag : String
  deriving DecidableEq, Repr

/-- An operation of a class. A blank or absent return type means that it returns nothing; the
parameters are an opaque text. -/
structure Method where
  name : String
  returnType : Option String
  parameters : Option String
  deriving DecidableEq, Repr

/-- A class box of a diagram. -/
structure ClassBox where
  id : String
  name : String
  attributes : List Attribute
  methods : List Method
  deriving DecidableEq, Repr

/-- What a relationship stands for. Everything but the four known kinds is kept as it was written
and has no effect. -/
inductive RelationshipKind where
  | generalization
  | association
  | aggregation
  | composition
  | unsupported (text : String)
  deriving DecidableEq, Repr

/-- An edge between two classes. The first label is the multiplicity at the source, the second the
multiplicity at the target. -/
structure Relationship where
  id : Option String
  kind : RelationshipKind
  sourceId : String
  targetId : String
  labels : List String
  deriving DecidableEq, Repr

/-- A class diagram. -/
structure Diagram where
  classes : List ClassBox
  relationships : List Relationship
  deriving DecidableEq, Repr

namespace RelationshipKind

/-- The kind that a text names; case and surrounding white space do not matter. -/
def ofText (text : String) : RelationshipKind :=
  let key := Text.asciiLower (Text.trim text)
  if key = "generalization" then .generalization
  else if key = "association" then .association
  else if key = "aggregation" then .aggregation
  else if key = "composition" then .composition
  else .unsupported text

/-- The text of a kind: the lower case name of a known kind, and of any other the text as it was
written. -/
def text : RelationshipKind → String
  | .generalization => "generalization"
  | .association => "association"
  | .aggregation => "aggregation"
  | .composition => "composition"
  | .unsupported text => text

/-- Whether relationships of this kind become persistent relations. -/
def isPersistent : RelationshipKind → Bool
  | .association | .aggregation | .composition => true
  | .generalization | .unsupported _ => false

end RelationshipKind

/-! ### Building diagrams in code -/

namespace ClassBox

/-- A class without members. -/
def named (id name : String) : ClassBox :=
  ⟨id, name, [], []⟩

/-- The class with one more attribute. -/
def addAttribute (c : ClassBox) (name tag : String) : ClassBox :=
  { c with attributes := c.attributes ++ [⟨name, tag⟩] }

/-- The class with one more operation. -/
def addMethod (c : ClassBox) (name : String) (returnType : Option String)
    (parameters : String) : ClassBox :=
  { c with methods := c.methods ++ [⟨name, returnType, some parameters⟩] }

end ClassBox

/-- A relationship without an identifier of its own. -/
def Relationship.between (kind : RelationshipKind) (sourceId targetId : String)
    (labels : List String) : Relationship :=
  ⟨none, kind, sourceId, targetId, labels⟩

/-! ### Normal forms -/

/-- The normal form of an attribute. -/
def Attribute.normalize (a : Attribute) : Attribute :=
  ⟨Text.trim a.name, Text.trim a.tag⟩

/-- The normal form of an operation. -/
def Method.normalize (m : Method) : Method :=
  { name := Text.trim m.name, returnType := m.returnType.map Text.trim, parameters := m.parameters }

/-- The normal form of a class. -/
def ClassBox.normalize (c : ClassBox) : ClassBox :=
  let name := Text.trim c.name
  let id := Text.trim c.id
  { id := if id = "" then Naming.entityName name else id
    name := name
    attributes := c.attributes.map Attribute.normalize
    methods := c.methods.map Method.normalize }

/-- The normal form of a relationship. -/
def Relationship.normalize (r : Relationship) : Relationship :=
  { id := r.id.map Text.trim
    kind := r.kind
    sourceId := Text.trim r.sourceId
    targetId := Text.trim r.targetId
    labels := r.labels.map Text.trim }

namespace Diagram

/-- The normal form of a diagram. -/
def normalize (d : Diagram) : Diagram :=
  ⟨d.classes.map ClassBox.normalize, d.relationships.map Relationship.normalize⟩

/-- The first class whose trimmed identifier is not blank and was met before, where `seen` holds the
trimmed identifiers that were. -/
def firstRepeated : List String → List ClassBox → Option ClassBox
  | _, [] => none
  | seen, c :: rest =>
    let id := Text.trim c.id
    if id = "" then firstRepeated seen rest
    else if id ∈ seen then some c
    else firstRepeated (id :: seen) rest

/-- The first class whose identifier repeats that of an earlier class. -/
def duplicate? (d : Diagram) : Option ClassBox :=
  firstRepeated [] d.classes

end Diagram

end Scaffold

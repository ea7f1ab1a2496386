import Scaffold.Entity.JavaType
import Scaffold.Template.Context

/-!
# The layers of a class

A class declares its own attributes as properties. At the top of a hierarchy one of them may become
the key; a class with a parent leaves out what the parent declares, declares no key of its own and
is found by the key of the top of its hierarchy.

The parents of a class, of its parent and so on lead to the top of its hierarchy. A diagram may be
wrong and lead back to a class that was already passed; the walk then ends where it is. A walk
passes every class of the diagram at most once, which bounds its length.

The first property of a class that can identify its instances becomes its key. A whole number
becomes a generated key, a text or a character a natural key; other types are passed over.

## Main definitions

* `Index.root`: the top of the hierarchy of a class.
* `KeyChoice`, `chooseKey`: the property that becomes the key.
* `Index.properties`: the attributes of a class as properties.
* `Index.entityLayer`: the context of the entity of a class.
* `Index.layers`: the four contexts of a class.
-/

namespace Scaffold

/-! ### Hierarchies -/

namespace Index

/-- The parent of a class, found by its type identifier. -/
def parent? (x : Index) (c : ClassBox) : Option ClassBox :=
  (x.parentEntity c).bind x.findEntity?

/-- The end of the walk up from a class, in at most `steps` steps and without a return to one of the
identifiers in `passed`. -/
def climb (x : Index) : (steps : Nat) → (passed : List String) → ClassBox → ClassBox
  | 0, _, c => c
  | steps + 1, passed, c =>
    match x.parent? c with
    | none => c
    | some parent =>
      if parent.id ∈ passed then c else climb x steps (parent.id :: passed) parent

/-- The top of the hierarchy of a class. -/
def root (x : Index) (c : ClassBox) : ClassBox :=
  x.climb x.diagram.classes.length [c.id] c

end Index

/-- The properties that a class declares itself, where those that the parent declares too are left
to the parent. -/
def withoutInherited (properties : List Property) (parentFields : Option (List String)) :
    List Property :=
  match parentFields with
  | none => properties
  | some names => properties.filter fun p => decide (p.name ∉ names)

/-! ### Keys -/

/-- The property chosen as key, by its position, and the form it takes as key. -/
structure KeyChoice where
  index : Nat
  name : String
  type : String
  generated : Bool
  deriving DecidableEq, Repr

/-- The type that a property takes as key and whether it is then generated. -/
def keyForm? (type : String) : Option (String × Bool) :=
  if holdsInteger type then some (numericKeyType, true)
  else if holdsText type then some (textKeyType, false)
  else none

/-- The key of a list of properties of which the first has position `index`. -/
def chooseKeyFrom (index : Nat) : List Property → Option KeyChoice
  | [] => none
  | p :: rest =>
    match keyForm? p.type with
    | some (type, generated) => some ⟨index, p.name, type, generated⟩
    | none => chooseKeyFrom (index + 1) rest

/-- The key of a list of properties. -/
def chooseKey (properties : List Property) : Option KeyChoice :=
  chooseKeyFrom 0 properties

/-- The properties with the one at the position of a key marked as the key. -/
def KeyChoice.mark (key : KeyChoice) (properties : List Property) : List Property :=
  properties.modify key.index fun p =>
    { p with isKey := true, type := key.type, generated := some key.generated }

/-- What an entity says about its key. -/
def KeyChoice.toPrimaryKey (key : KeyChoice) (inherited : Bool) : PrimaryKey :=
  { name := key.name
    type := key.type
    setter := Naming.setter key.name
    generated := key.generated
    inherited := inherited }

/-! ### Layers -/

/-- An operation as a stub. -/
def Method.toStub (isEntity : String → Bool) (m : Method) : Stub :=
  let returnType := typeInDiagram isEntity (m.returnType.getD "")
  { name := Naming.fieldName m.name
    parameters := m.parameters.getD ""
    returnType := returnType
    placeholder := if isNoValue returnType then none else some (placeholder returnType) }

/-- An attribute as a property. -/
def Attribute.toProperty (isEntity : String → Bool) (a : Attribute) : Property :=
  { name := Naming.fieldName a.name
    type := attributeType isEntity a.tag
    isKey := false
    generated := none }

/-- The four contexts of a class. -/
structure Layers where
  entity : Context.Entity
  repository : Context.Repository
  service : Context.Service
  controller : Context.Controller
  deriving DecidableEq, Repr

namespace Index

/-- The attributes of a class as properties, in order. -/
def properties (x : Index) (c : ClassBox) : List Property :=
  c.attributes.map (Attribute.toProperty x.isEntity)

/-- The key that the attributes of a class give it. -/
def ownKey (x : Index) (c : ClassBox) : Option KeyChoice :=
  chooseKey (x.properties c)

/-- The properties of a class with its own key marked. -/
def keyedProperties (x : Index) (c : ClassBox) : List Property :=
  match x.ownKey c with
  | none => x.properties c
  | some key => key.mark (x.properties c)

/-- The properties that a class declares. -/
def declaredProperties (x : Index) (c : ClassBox) : List Property :=
  match x.parent? c with
  | some parent =>
    withoutInherited (x.properties c) (some ((x.properties parent).map Property.name))
  | none => x.keyedProperties c

/-- The key by which the instances of a class are found. -/
def key (x : Index) (c : ClassBox) : Option PrimaryKey :=
  match x.parent? c with
  | some _ => (x.ownKey (x.root c)).map fun k => k.toPrimaryKey true
  | none => (x.ownKey c).map fun k => k.toPrimaryKey false

/-- The context of the entity of a class. -/
def entityLayer (x : Index) (basePackage : String) (c : ClassBox) : Context.Entity :=
  let relations := x.relations c
  { basePackage := basePackage
    entityName := c.entity
    properties := x.declaredProperties c
    oneToOne := relations.oneToOne
    oneToMany := relations.oneToMany
    manyToOne := relations.manyToOne
    manyToMany := relations.manyToMany
    parentEntity := relations.parentEntity
    stubs := c.methods.map (Method.toStub x.isEntity)
    key := x.key c
    resourceName := Naming.resourceName c.entity }

/-- The four contexts of a class. -/
def layers (x : Index) (basePackage : String) (c : ClassBox) : Layers :=
  let entity := x.entityLayer basePackage c
  { entity := entity
    repository :=
      { basePackage := basePackage, entityName := entity.entityName, keyType := entity.keyType }
    service :=
      { basePackage := basePackage
        entityName := entity.entityName
        keyType := entity.keyType
        keySetter := entity.key.map PrimaryKey.setter }
    controller :=
      { basePackage := basePackage
        entityName := entity.entityName
        resourceName := entity.resourceName
        keyType := entity.keyType } }

end Index

end Scaffold

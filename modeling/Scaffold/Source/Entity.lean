import Scaffold.Entity.JavaType
import Scaffold.Template.Context
import Scaffold.Text.Basic

/-!
# The source of an entity

An entity declares one field for each of its properties and relations, with a getter and a setter
for every field, and then its stubs. What is declared is decided first, as a list of fields and a
list of imports; writing the text follows from these.

An entity at the top of a hierarchy has to have a key. If none was inferred it declares a generated
one under the name `id`, in place of any property of that name.

## Main definitions

* `Context.Entity.fields`: the fields of the entity.
* `Context.Entity.imports`: the imports of its source, sorted and without repetition.
* `Context.Entity.source`: the text of the file.
-/

namespace Scaffold

/-- A field of a generated class. -/
structure SourceField where
  marks : List String
  type : String
  name : String
  initializer : Option String
  deriving DecidableEq, Repr

/-- Marks the key of an entity. -/
def keyMark : String := "@Id"

/-- Marks a key that the database generates. -/
def generatedMark : String := "@GeneratedValue(strategy = GenerationType.IDENTITY)"

/-- Marks a field that is not stored. -/
def transientMark : String := "@Transient"

/-- Keeps a collection out of the data sent to clients. -/
def ignoreMark : String := "@JsonIgnore"

/-- The column that refers to a field of another entity. -/
def joinColumnMark (field : String) : String :=
  "@JoinColumn(name = \"" ++ field ++ "_id\")"

/-- The type of a collection of entities. -/
def collectionType (entity : String) : String :=
  "List<" ++ entity ++ ">"

/-- The value a collection starts with. -/
def emptyCollection : String := "new ArrayList<>()"

/-! ### Fields -/

/-- The key of an entity for which none was inferred. -/
def syntheticKey : SourceField :=
  ⟨[keyMark, generatedMark], numericKeyType, "id", none⟩

/-- The field of a property. -/
def Property.toField (p : Property) : SourceField :=
  let transient := if p.type = objectType then [transientMark] else []
  let key := if p.isKey then [keyMark] else []
  let generated := if p.isKey && p.generated == some true then [generatedMark] else []
  ⟨transient ++ key ++ generated, p.type, p.name, none⟩

/-- The field of a single reference. -/
def OneToOne.toField (r : OneToOne) : SourceField :=
  ⟨["@OneToOne", joinColumnMark r.targetField], r.targetEntity, r.targetField, none⟩

/-- The field of a collection stored through a field of its elements. -/
def OneToMany.toField (r : OneToMany) : SourceField :=
  ⟨["@OneToMany(mappedBy = \"" ++ r.mappedBy ++ "\", cascade = CascadeType.ALL)", ignoreMark],
    collectionType r.targetEntity, r.collectionField, some emptyCollection⟩

/-- The field of a reference back to the holder of a collection. -/
def ManyToOne.toField (r : ManyToOne) : SourceField :=
  ⟨["@ManyToOne", joinColumnMark r.targetField], r.targetEntity, r.targetField, none⟩

/-- The table and the columns of a collection stored in a table of pairs. -/
def ManyToMany.joinTableMark (r : ManyToMany) : String :=
  "@JoinTable(name = \"" ++ r.joinTable ++ "\", joinColumns = @JoinColumn(name = \"" ++
    r.thisTable ++ "_id\"), inverseJoinColumns = @JoinColumn(name = \"" ++ r.otherTable ++ "_id\"))"

/-- The field of a collection stored in a table of pairs. -/
def ManyToMany.toField (r : ManyToMany) : SourceField :=
  ⟨["@ManyToMany", r.joinTableMark, ignoreMark],
    collectionType r.targetEntity, r.collectionField, some emptyCollection⟩

namespace Context.Entity

/-- Whether the entity has to declare a key that no property gives. -/
def needsSyntheticKey (c : Context.Entity) : Bool :=
  c.key.isNone && c.parentEntity.isNone

/-- The fields for the key and the properties of the entity. -/
def propertyFields (c : Context.Entity) : List SourceField :=
  if c.needsSyntheticKey then
    syntheticKey :: (c.properties.filter fun p => p.name != "id").map Property.toField
  else
    c.properties.map Property.toField

/-- The fields of the entity, in the order in which they are declared. -/
def fields (c : Context.Entity) : List SourceField :=
  c.propertyFields ++ c.oneToOne.map OneToOne.toField ++ c.oneToMany.map OneToMany.toField ++
    c.manyToOne.map ManyToOne.toField ++ c.manyToMany.map ManyToMany.toField

/-! ### Imports -/

/-- A sorted list of texts with one more text in it, unless it is there. -/
def insertSorted (s : String) : List String → List String
  | [] => [s]
  | t :: rest =>
    if s < t then s :: t :: rest
    else if s = t then t :: rest
    else t :: insertSorted s rest

/-- Texts in ascending order and without repetition. -/
def sortedSet (texts : List String) : List String :=
  texts.foldr insertSorted []

/-- What the source of an entity with collections imports. -/
def collectionImports : List String :=
  ["com.fasterxml.jackson.annotation.JsonIgnore", "java.util.ArrayList", "java.util.List"]

/-- The imports of the source. -/
def imports (c : Context.Entity) : List String :=
  let collections :=
    if c.oneToMany.isEmpty && c.manyToMany.isEmpty then [] else collectionImports
  let types := c.fields.map SourceField.type ++ c.stubs.map Stub.returnType
  sortedSet ("jakarta.persistence.*" :: collections ++ types.filterMap qualifiedName?)

end Context.Entity

/-! ### Text -/

/-- The declaration of a field. -/
def SourceField.declaration (f : SourceField) : List String :=
  let value := match f.initializer with
    | some value => " = " ++ value
    | none => ""
  "" :: f.marks.map (fun a => "    " ++ a) ++
    ["    private " ++ f.type ++ " " ++ f.name ++ value ++ ";"]

/-- The getter and the setter of a field. -/
def SourceField.accessors (f : SourceField) : List String :=
  ["",
   "    public " ++ f.type ++ " " ++ Naming.getter f.name ++ "() \x7b",
   "        return " ++ f.name ++ ";",
   "    \x7d",
   "",
   "    public void " ++ Naming.setter f.name ++ "(" ++ f.type ++ " " ++ f.name ++ ") \x7b",
   "        this." ++ f.name ++ " = " ++ f.name ++ ";",
   "    \x7d"]

/-- The lines of a stub. -/
def Stub.lines (s : Stub) : List String :=
  let result := match s.placeholder with
    | some value => ["        return " ++ value ++ ";"]
    | none => []
  ["", "    public " ++ s.returnType ++ " " ++ s.name ++ "(" ++ s.parameters ++ ") \x7b"] ++
    result ++ ["    \x7d"]

/-- The lines that open the class. -/
def Context.Entity.heading (c : Context.Entity) : List String :=
  match c.parentEntity with
  | some parent => ["public class " ++ c.entityName ++ " extends " ++ parent ++ " \x7b"]
  | none =>
    ["@Table(name = \"" ++ c.resourceName ++ "\")", "public class " ++ c.entityName ++ " \x7b"]

/-- The source of an entity. -/
def Context.Entity.source (c : Context.Entity) : String :=
  textOfLines <|
    ["package " ++ c.basePackage ++ ".model;", ""] ++
    c.imports.map (fun name => "import " ++ name ++ ";") ++
    ["", "@Entity"] ++ c.heading ++
    c.fields.flatMap SourceField.declaration ++
    ["", "    public " ++ c.entityName ++ "() \x7b", "    \x7d"] ++
    c.fields.flatMap SourceField.accessors ++
    c.stubs.flatMap Stub.lines ++
    ["\x7d"]

end Scaffold

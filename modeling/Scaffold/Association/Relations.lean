import Scaffold.Diagram.Index
import Scaffold.Naming.Identifier

/-!
# The relations of a class

For one class of a diagram, its *focal* class, the relationships it takes part in are turned into
the persistent relations that its entity declares. A relationship counts if both its ends are found;
the focal class is then recognized by its identifier. An end is many if its label holds a star, as
in `*`, `0..*` or `1..*`; a missing label means a single end. Associations, aggregations and
compositions all give relations, chosen by the multiplicities of the two ends:

| source | target | at the source | at the target |
|---|---|---|---|
| one | one | one to one | |
| one | many | one to many | many to one |
| many | many | many to many | many to one |
| many | one | | |

Relations keep the order of the relationships, and repeated relationships give repeated relations.
A generalization makes its target the parent of its source; of several the last one counts.

## Main definitions

* `Multiplicity`: which ends of a relationship are many.
* `Relations`: the parent and the four lists of relations of a class.
* `Index.parentEntity`: the type identifier of the parent.
* `Index.relations`: all relations of a class.
-/

namespace Scaffold

/-! ### Multiplicities -/

/-- Which ends of a relationship are many. -/
structure Multiplicity where
  sourceIsMany : Bool
  targetIsMany : Bool
  deriving DecidableEq, Repr

namespace Multiplicity

/-- Whether a label marks a many end. -/
def isMany (label : String) : Bool :=
  label.toList.any (· == '*')

/-- The multiplicities that a list of labels stands for: the first is the source's, the second the
target's, and further labels have no meaning. -/
def ofLabels (labels : List String) : Multiplicity where
  sourceIsMany := labels[0]?.any isMany
  targetIsMany := labels[1]?.any isMany

end Multiplicity

/-! ### Relations -/

/-- A single reference to another entity, owned by this one. -/
structure OneToOne where
  targetEntity : String
  targetField : String
  deriving DecidableEq, Repr

/-- A collection of another entity, stored through a field of that entity. -/
structure OneToMany where
  targetEntity : String
  collectionField : String
  mappedBy : String
  deriving DecidableEq, Repr

/-- A single reference to an entity that holds this one in a collection. -/
structure ManyToOne where
  targetEntity : String
  targetField : String
  deriving DecidableEq, Repr

/-- A collection of another entity, stored in a table of pairs. -/
structure ManyToMany where
  targetEntity : String
  collectionField : String
  joinTable : String
  thisTable : String
  otherTable : String
  deriving DecidableEq, Repr

/-- The parent and the relations of a class. -/
structure Relations where
  parentEntity : Option String
  oneToOne : List OneToOne
  oneToMany : List OneToMany
  manyToOne : List ManyToOne
  manyToMany : List ManyToMany
  deriving DecidableEq, Repr

/-! ### Relations between two entities -/

/-- The reference from an entity to another. -/
def OneToOne.toEntity (target : String) : OneToOne :=
  ⟨target, Naming.fieldName target⟩

/-- The collection of `target` entities in `source`. -/
def OneToMany.between (source target : String) : OneToMany :=
  ⟨target, Naming.plural (Naming.fieldName target), Naming.fieldName source⟩

/-- The reference back to the entity that holds the collection. -/
def ManyToOne.toEntity (source : String) : ManyToOne :=
  ⟨source, Naming.fieldName source⟩

/-- The collection of `target` entities in `source`, with a table named for both. -/
def ManyToMany.between (source target : String) : ManyToMany :=
  let thisTable := Text.lowercase source
  let otherTable := Text.lowercase target
  { targetEntity := target
    collectionField := Naming.plural (Naming.fieldName target)
    joinTable := thisTable ++ "_" ++ otherTable
    thisTable := thisTable
    otherTable := otherTable }

/-! ### Relations of a focal class -/

namespace Relations

/-- No relations, below a parent. -/
def below (parentEntity : Option String) : Relations :=
  ⟨parentEntity, [], [], [], []⟩

/-- The relations with the one added that a relationship gives at its source. -/
def addAtSource (r : Relations) (m : Multiplicity) (source target : String) : Relations :=
  match m.sourceIsMany, m.targetIsMany with
  | false, false => { r with oneToOne := r.oneToOne ++ [.toEntity target] }
  | false, true => { r with oneToMany := r.oneToMany ++ [.between source target] }
  | true, true => { r with manyToMany := r.manyToMany ++ [.between source target] }
  | true, false => r

/-- The relations with the one added that a relationship gives at its target. -/
def addAtTarget (r : Relations) (m : Multiplicity) (source : String) : Relations :=
  if m.targetIsMany then { r with manyToOne := r.manyToOne ++ [.toEntity source] } else r

end Relations

namespace Index

/-- The parents that the generalizations of a class name, in order. -/
def parents (x : Index) (focal : ClassBox) : List ClassBox :=
  x.diagram.relationships.filterMap fun r =>
    if r.kind = .generalization then
      (x.ends r).bind fun (source, target) =>
        if source.id = focal.id then some target else none
    else none

/-- The type identifier of the parent of a class. -/
def parentEntity (x : Index) (focal : ClassBox) : Option String :=
  (x.parents focal).getLast?.map ClassBox.entity

/-- The relations of a class with those added that one relationship gives it. A relationship of a
class with itself counts at both ends. -/
def addRelationship (x : Index) (focal : ClassBox) (found : Relations) (r : Relationship) :
    Relations :=
  match x.ends r with
  | none => found
  | some (source, target) =>
    if r.kind.isPersistent then
      let m := Multiplicity.ofLabels r.labels
      let found :=
        if source.id = focal.id then found.addAtSource m source.entity target.entity else found
      if target.id = focal.id then found.addAtTarget m source.entity else found
    else found

/-- The relations of a class. -/
def relations (x : Index) (focal : ClassBox) : Relations :=
  x.diagram.relationships.foldl (x.addRelationship focal) (.below (x.parentEntity focal))

end Index

end Scaffold

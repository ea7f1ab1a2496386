import Scaffold.Diagram.Basic
import Scaffold.Naming.Identifier

/-!
# Finding classes

Relationships name classes by identifier, and attribute types name them by type identifier. Both
look-ups are prepared once for a diagram, in one pass over its classes; where two classes share a
key, the first declared one is found.

## Main definitions

* `FirstWins`: a table in which the first value entered under a key stays.
* `Index.ofDiagram`: the two tables of a diagram.
* `Index.findId?`, `Index.findEntity?`: the look-ups.
* `Index.dangling`: the relationships with an end that is not found.
-/

namespace Scaffold

/-- A table of values under keys. A value entered under a key that is taken is ignored. -/
structure FirstWins (α : Type) where
  entries : List (String × α)

namespace FirstWins

variable {α : Type}

/-- The table without entries. -/
def empty : FirstWins α := ⟨[]⟩

/-- The value under a key. -/
def find? (t : FirstWins α) (key : String) : Option α :=
  t.entries.lookup key

/-- The table with a value entered, unless the key is taken. -/
def enter (t : FirstWins α) (key : String) (value : α) : FirstWins α :=
  if (t.find? key).isSome then t else ⟨t.entries ++ [(key, value)]⟩

end FirstWins

/-- A diagram with its classes under their identifiers and under their type identifiers. -/
structure Index where
  diagram : Diagram
  byId : FirstWins ClassBox
  byEntity : FirstWins ClassBox

/-- The type identifier of a class. -/
def ClassBox.entity (c : ClassBox) : String :=
  Naming.entityName c.name

namespace Index

/-- The index of a diagram. -/
def ofDiagram (d : Diagram) : Index where
  diagram := d
  byId := d.classes.foldl (fun t c => t.enter c.id c) .empty
  byEntity := d.classes.foldl (fun t c => t.enter c.entity c) .empty

/-- The first class with an identifier. -/
def findId? (x : Index) (id : String) : Option ClassBox :=
  x.byId.find? id

/-- The first class with a type identifier. -/
def findEntity? (x : Index) (entity : String) : Option ClassBox :=
  x.byEntity.find? entity

/-- Whether some class has a type identifier. -/
def isEntity (x : Index) (entity : String) : Bool :=
  (x.findEntity? entity).isSome

/-- The classes at the two ends of a relationship, if both are found. -/
def ends (x : Index) (r : Relationship) : Option (ClassBox × ClassBox) :=
  match x.findId? r.sourceId, x.findId? r.targetId with
  | some source, some target => some (source, target)
  | _, _ => none

/-- The relationships with an end that is not found, in order. -/
def dangling (x : Index) : List Relationship :=
  x.diagram.relationships.filter fun r =>
    (x.findId? r.sourceId).isNone || (x.findId? r.targetId).isNone

end Index

end Scaffold

import Mathlib.Algebra.BigOperators.Group.List.Basic
import Scaffold.Entity.Layers
import Scaffold.Proofs.Diagram.Lookup
import Scaffold.Source.Entity

/-!
# The two ends of a relationship

The relations of a class are found by going through all relationships with the class in focus, so
the two ends of a relationship are resolved in different runs and never see each other. They still
fit together: what a relationship gives its source and what it gives its target is decided by the
same two multiplicities.

The argument is an account by relationship. The relations of a class are the concatenation of what
every single relationship gives it (`relations_bucket`), which turns a count over the relations of a
class into a sum over the relationships, and the sums agree term by term
(`countP_given_manyToOne`).

## Main definitions

* `Index.given`: what one relationship gives a class.

## Main results

* `Index.relations_bucket`: the relations of a class, one relationship at a time.
* `Index.manyToOne_paired`: the references back to a class are as many as its collections, and every
  collection is stored through one of them.
-/

namespace Scaffold

namespace Relations

/-- The relations of one list behind those of another, below the parent of the first. -/
def append (a b : Relations) : Relations where
  parentEntity := a.parentEntity
  oneToOne := a.oneToOne ++ b.oneToOne
  oneToMany := a.oneToMany ++ b.oneToMany
  manyToOne := a.manyToOne ++ b.manyToOne
  manyToMany := a.manyToMany ++ b.manyToMany

@[simp] theorem append_below (a : Relations) (parent : Option String) :
    a.append (.below parent) = a := by
  simp [append, below]

variable (found : Relations) (m : Multiplicity) (source target : String)

theorem addAtSource_eq_append :
    found.addAtSource m source target =
      found.append ((below none).addAtSource m source target) := by
  obtain ⟨sourceIsMany, targetIsMany⟩ := m
  cases sourceIsMany <;> cases targetIsMany <;> simp [addAtSource, append, below]

theorem addAtTarget_eq_append :
    found.addAtTarget m source = found.append ((below none).addAtTarget m source) := by
  unfold addAtTarget
  split <;> simp [append, below]

theorem append_addAtTarget (a b : Relations) :
    a.append (b.addAtTarget m source) = (a.append b).addAtTarget m source := by
  unfold addAtTarget
  split <;> simp [append]

@[simp] theorem addAtSource_oneToOne :
    (found.addAtSource m source target).oneToOne =
      found.oneToOne ++ if m = ⟨false, false⟩ then [.toEntity target] else [] := by
  obtain ⟨sourceIsMany, targetIsMany⟩ := m
  cases sourceIsMany <;> cases targetIsMany <;> simp [addAtSource]

@[simp] theorem addAtSource_oneToMany :
    (found.addAtSource m source target).oneToMany =
      found.oneToMany ++ if m = ⟨false, true⟩ then [.between source target] else [] := by
  obtain ⟨sourceIsMany, targetIsMany⟩ := m
  cases sourceIsMany <;> cases targetIsMany <;> simp [addAtSource]

@[simp] theorem addAtSource_manyToMany :
    (found.addAtSource m source target).manyToMany =
      found.manyToMany ++ if m = ⟨true, true⟩ then [.between source target] else [] := by
  obtain ⟨sourceIsMany, targetIsMany⟩ := m
  cases sourceIsMany <;> cases targetIsMany <;> simp [addAtSource]

@[simp] theorem addAtSource_manyToOne :
    (found.addAtSource m source target).manyToOne = found.manyToOne := by
  obtain ⟨sourceIsMany, targetIsMany⟩ := m
  cases sourceIsMany <;> cases targetIsMany <;> rfl

@[simp] theorem addAtTarget_oneToOne :
    (found.addAtTarget m source).oneToOne = found.oneToOne := by
  unfold addAtTarget
  split <;> rfl

@[simp] theorem addAtTarget_oneToMany :
    (found.addAtTarget m source).oneToMany = found.oneToMany := by
  unfold addAtTarget
  split <;> rfl

@[simp] theorem addAtTarget_manyToMany :
    (found.addAtTarget m source).manyToMany = found.manyToMany := by
  unfold addAtTarget
  split <;> rfl

@[simp] theorem addAtTarget_manyToOne :
    (found.addAtTarget m source).manyToOne =
      found.manyToOne ++ if m.targetIsMany then [.toEntity source] else [] := by
  unfold addAtTarget
  split <;> simp

end Relations

namespace Index

variable {x : Index} {focal source target : ClassBox} {r : Relationship}

/-! ### One relationship -/

/-- What one relationship gives a class. -/
def given (x : Index) (focal : ClassBox) (r : Relationship) : Relations :=
  x.addRelationship focal (.below none) r

theorem addRelationship_eq_append (x : Index) (focal : ClassBox) (found : Relations)
    (r : Relationship) : x.addRelationship focal found r = found.append (x.given focal r) := by
  unfold given addRelationship
  cases x.ends r with
  | none => simp
  | some pair =>
    dsimp only
    split_ifs
    · rw [Relations.addAtSource_eq_append found, Relations.append_addAtTarget]
    · rw [Relations.addAtTarget_eq_append]
    · rw [Relations.addAtSource_eq_append found]
    · simp
    · simp

theorem given_of_ends_eq_none (h : x.ends r = none) : x.given focal r = .below none := by
  simp [given, addRelationship, h]

theorem given_oneToOne (h : x.ends r = some (source, target)) :
    (x.given focal r).oneToOne =
      if r.kind.isPersistent ∧ source.id = focal.id ∧
          Multiplicity.ofLabels r.labels = ⟨false, false⟩ then
        [.toEntity target.entity]
      else [] := by
  simp only [given, addRelationship, h]
  split_ifs <;> simp_all [Relations.below]

theorem given_oneToMany (h : x.ends r = some (source, target)) :
    (x.given focal r).oneToMany =
      if r.kind.isPersistent ∧ source.id = focal.id ∧
          Multiplicity.ofLabels r.labels = ⟨false, true⟩ then
        [.between source.entity target.entity]
      else [] := by
  simp only [given, addRelationship, h]
  split_ifs <;> simp_all [Relations.below]

theorem given_manyToMany (h : x.ends r = some (source, target)) :
    (x.given focal r).manyToMany =
      if r.kind.isPersistent ∧ source.id = focal.id ∧
          Multiplicity.ofLabels r.labels = ⟨true, true⟩ then
        [.between source.entity target.entity]
      else [] := by
  simp only [given, addRelationship, h]
  split_ifs <;> simp_all [Relations.below]

theorem given_manyToOne (h : x.ends r = some (source, target)) :
    (x.given focal r).manyToOne =
      if r.kind.isPersistent ∧ target.id = focal.id ∧
          (Multiplicity.ofLabels r.labels).targetIsMany then
        [.toEntity source.entity]
      else [] := by
  simp only [given, addRelationship, h]
  split_ifs <;> simp_all [Relations.below]

/-! ### All relationships -/

theorem foldl_addRelationship_bucket {β : Type} {bucket : Relations → List β}
    (happend : ∀ a b : Relations, bucket (a.append b) = bucket a ++ bucket b) (x : Index)
    (focal : ClassBox) (rs : List Relationship) (found : Relations) :
    bucket (rs.foldl (x.addRelationship focal) found) =
      bucket found ++ rs.flatMap fun r => bucket (x.given focal r) := by
  induction rs generalizing found with
  | nil => simp
  | cons r rest ih =>
    rw [List.foldl_cons, ih, addRelationship_eq_append, happend, List.flatMap_cons,
      List.append_assoc]

/-- The relations of a class of one sort are those that its relationships give it, in order. A sort
is given by a projection, `bucket`. -/
theorem relations_bucket {β : Type} {bucket : Relations → List β}
    (happend : ∀ a b : Relations, bucket (a.append b) = bucket a ++ bucket b)
    (hbelow : ∀ parent, bucket (.below parent) = []) (x : Index) (focal : ClassBox) :
    bucket (x.relations focal) =
      x.diagram.relationships.flatMap fun r => bucket (x.given focal r) := by
  rw [relations, foldl_addRelationship_bucket happend, hbelow, List.nil_append]

theorem relations_oneToMany (x : Index) (focal : ClassBox) :
    (x.relations focal).oneToMany =
      x.diagram.relationships.flatMap fun r => (x.given focal r).oneToMany :=
  relations_bucket (fun _ _ => rfl) (fun _ => rfl) x focal

theorem relations_manyToMany (x : Index) (focal : ClassBox) :
    (x.relations focal).manyToMany =
      x.diagram.relationships.flatMap fun r => (x.given focal r).manyToMany :=
  relations_bucket (fun _ _ => rfl) (fun _ => rfl) x focal

theorem relations_manyToOne (x : Index) (focal : ClassBox) :
    (x.relations focal).manyToOne =
      x.diagram.relationships.flatMap fun r => (x.given focal r).manyToOne :=
  relations_bucket (fun _ _ => rfl) (fun _ => rfl) x focal

theorem relations_parentEntity (x : Index) (focal : ClassBox) :
    (x.relations focal).parentEntity = x.parentEntity focal := by
  have hfold : ∀ (rs : List Relationship) (found : Relations),
      (rs.foldl (x.addRelationship focal) found).parentEntity = found.parentEntity := by
    intro rs
    induction rs with
    | nil => intro found; rfl
    | cons r rest ih => intro found; rw [List.foldl_cons, ih, addRelationship_eq_append]; rfl
  exact hfold _ _

/-- What a class has of one sort comes from a relationship that gives it, given what a relationship
with two ends gives. -/
theorem mem_relations_bucket {β : Type} {bucket : Relations → List β}
    (happend : ∀ a b : Relations, bucket (a.append b) = bucket a ++ bucket b)
    (hbelow : ∀ parent, bucket (.below parent) = [])
    {counts : Relationship → ClassBox → ClassBox → Prop} [∀ r s t, Decidable (counts r s t)]
    {entry : ClassBox → ClassBox → β}
    (hgiven : ∀ {r : Relationship} {source target : ClassBox}, x.ends r = some (source, target) →
      bucket (x.given focal r) = if counts r source target then [entry source target] else [])
    (b : β) :
    b ∈ bucket (x.relations focal) ↔
      ∃ r ∈ x.diagram.relationships, ∃ source target, x.ends r = some (source, target) ∧
        counts r source target ∧ b = entry source target := by
  rw [relations_bucket happend hbelow, List.mem_flatMap]
  refine exists_congr fun r => and_congr_right fun _ => ?_
  cases hends : x.ends r with
  | none => simp [given_of_ends_eq_none hends, hbelow]
  | some pair =>
    obtain ⟨source, target⟩ := pair
    simp [hgiven hends, and_left_comm]

/-- A collection of a class comes from a relationship that starts at it and is many at its target
only. -/
theorem mem_relations_oneToMany {o : OneToMany} :
    o ∈ (x.relations focal).oneToMany ↔
      ∃ r ∈ x.diagram.relationships, ∃ source target, x.ends r = some (source, target) ∧
        r.kind.isPersistent ∧ source.id = focal.id ∧
        Multiplicity.ofLabels r.labels = ⟨false, true⟩ ∧
        o = .between source.entity target.entity := by
  simpa only [and_assoc] using
    mem_relations_bucket (fun _ _ => rfl) (fun _ => rfl)
      given_oneToMany o

/-- A collection stored in a table of pairs comes from a relationship that starts at the class and
is many at both ends. -/
theorem mem_relations_manyToMany {o : ManyToMany} :
    o ∈ (x.relations focal).manyToMany ↔
      ∃ r ∈ x.diagram.relationships, ∃ source target, x.ends r = some (source, target) ∧
        r.kind.isPersistent ∧ source.id = focal.id ∧
        Multiplicity.ofLabels r.labels = ⟨true, true⟩ ∧
        o = .between source.entity target.entity := by
  simpa only [and_assoc] using
    mem_relations_bucket (fun _ _ => rfl) (fun _ => rfl) given_manyToMany o

/-- A reference back comes from a relationship that ends at the class and is many there. -/
theorem mem_relations_manyToOne {m : ManyToOne} :
    m ∈ (x.relations focal).manyToOne ↔
      ∃ r ∈ x.diagram.relationships, ∃ source target, x.ends r = some (source, target) ∧
        r.kind.isPersistent ∧ target.id = focal.id ∧
        (Multiplicity.ofLabels r.labels).targetIsMany ∧ m = .toEntity source.entity := by
  simpa only [and_assoc] using
    mem_relations_bucket (fun _ _ => rfl) (fun _ => rfl) given_manyToOne m

/-! ### Both ends -/

section Unambiguous

variable {d : Diagram} {a t : ClassBox}

/-- One relationship gives its target as many references to a class as it gives that class
collections of the target. -/
theorem countP_given_manyToOne (h : d.Unambiguous) (ha : a ∈ d.classes) (ht : t ∈ d.classes)
    (r : Relationship) :
    ((ofDiagram d).given t r).manyToOne.countP (fun m => m.targetEntity = a.entity) =
      ((ofDiagram d).given a r).oneToMany.countP (fun o => o.targetEntity = t.entity) +
        ((ofDiagram d).given a r).manyToMany.countP (fun o => o.targetEntity = t.entity) := by
  cases hends : (ofDiagram d).ends r with
  | none => simp [given_of_ends_eq_none hends, Relations.below]
  | some pair =>
    obtain ⟨source, target⟩ := pair
    obtain ⟨⟨hsource, -⟩, htarget, -⟩ := h.ends_eq_some_iff.mp hends
    rw [given_manyToOne hends, given_oneToMany hends, given_manyToMany hends]
    -- in an unambiguous diagram identifiers and type identifiers both stand for the class itself
    simp only [h.id_eq_iff hsource ha, h.id_eq_iff htarget ht]
    generalize Multiplicity.ofLabels r.labels = m
    obtain ⟨sourceIsMany, targetIsMany⟩ := m
    by_cases hkind : r.kind.isPersistent <;> by_cases hs : source = a <;>
      by_cases hst : target = t <;> cases sourceIsMany <;> cases targetIsMany <;>
        simp [hkind, hs, hst, ManyToOne.toEntity, OneToMany.between, ManyToMany.between,
          h.entity_eq_iff hsource ha, h.entity_eq_iff htarget ht]

theorem countP_manyToOne (h : d.Unambiguous) (ha : a ∈ d.classes) (ht : t ∈ d.classes) :
    ((ofDiagram d).relations t).manyToOne.countP (fun m => m.targetEntity = a.entity) =
      ((ofDiagram d).relations a).oneToMany.countP (fun o => o.targetEntity = t.entity) +
        ((ofDiagram d).relations a).manyToMany.countP (fun o => o.targetEntity = t.entity) := by
  rw [relations_manyToOne, relations_oneToMany, relations_manyToMany, List.countP_flatMap,
    List.countP_flatMap, List.countP_flatMap, ← List.sum_map_add]
  exact congrArg List.sum (List.map_congr_left fun r _ => countP_given_manyToOne h ha ht r)

/-- A collection is stored through the field that refers back to its holder. -/
theorem mappedBy_of_mem_oneToMany (h : d.Unambiguous) (ha : a ∈ d.classes) {o : OneToMany}
    (ho : o ∈ ((ofDiagram d).relations a).oneToMany) :
    o.mappedBy = Naming.fieldName a.entity := by
  obtain ⟨r, -, source, target, hends, -, hid, -, rfl⟩ := mem_relations_oneToMany.mp ho
  obtain ⟨⟨hsource, -⟩, -⟩ := h.ends_eq_some_iff.mp hends
  rw [OneToMany.between, (h.id_eq_iff hsource ha).mp hid]

theorem targetField_of_mem_manyToOne {x : Index} {m : ManyToOne}
    (hm : m ∈ (x.relations t).manyToOne) : m.targetField = Naming.fieldName m.targetEntity := by
  obtain ⟨r, -, source, target, -, -, -, -, hback⟩ := mem_relations_manyToOne.mp hm
  rw [hback, ManyToOne.toEntity]

/-- The elements of a collection belong to a class of the diagram, which refers back. -/
theorem exists_manyToOne_of_mem_oneToMany (h : d.Unambiguous) (ha : a ∈ d.classes) {o : OneToMany}
    (ho : o ∈ ((ofDiagram d).relations a).oneToMany) :
    ∃ t ∈ d.classes, t.entity = o.targetEntity ∧
      ManyToOne.toEntity a.entity ∈ ((ofDiagram d).relations t).manyToOne := by
  obtain ⟨r, hr, source, target, hends, hkind, hid, hm, rfl⟩ := mem_relations_oneToMany.mp ho
  obtain ⟨⟨hsource, -⟩, htarget, -⟩ := h.ends_eq_some_iff.mp hends
  obtain rfl := (h.id_eq_iff hsource ha).mp hid
  refine ⟨target, htarget, rfl, mem_relations_manyToOne.mpr ?_⟩
  exact ⟨r, hr, source, target, hends, hkind, rfl, by rw [hm], rfl⟩

/-- **The two ends of every relationship fit together.** A class refers back to another as often as
the other collects it, in one-to-many and many-to-many collections together; every one-to-many
collection is stored through exactly the fields that refer back; and the class of its elements
declares such a field. -/
theorem manyToOne_paired (h : d.Unambiguous) (basePackage : String) :
    (∀ a ∈ d.classes, ∀ t ∈ d.classes,
      ((ofDiagram d).relations t).manyToOne.countP (fun m => m.targetEntity = a.entity) =
          ((ofDiagram d).relations a).oneToMany.countP (fun o => o.targetEntity = t.entity) +
            ((ofDiagram d).relations a).manyToMany.countP (fun o => o.targetEntity = t.entity) ∧
        ∀ o ∈ ((ofDiagram d).relations a).oneToMany, o.targetEntity = t.entity →
          (∃ m ∈ ((ofDiagram d).relations t).manyToOne, m.targetEntity = a.entity) ∧
          ∀ m ∈ ((ofDiagram d).relations t).manyToOne, m.targetEntity = a.entity →
            o.mappedBy = m.targetField) ∧
    ∀ a ∈ d.classes, ∀ o ∈ ((ofDiagram d).relations a).oneToMany,
      ∃ t ∈ d.classes, t.entity = o.targetEntity ∧
        ∃ f ∈ ((ofDiagram d).entityLayer basePackage t).fields,
          f.name = o.mappedBy ∧ f.type = a.entity := by
  refine ⟨fun a ha t ht => ⟨countP_manyToOne h ha ht, fun o ho hot => ⟨?_, fun m hm hma => ?_⟩⟩,
    fun a ha o ho => ?_⟩
  · obtain ⟨t', ht', hentity, hmem⟩ := exists_manyToOne_of_mem_oneToMany h ha ho
    obtain rfl := (h.entity_eq_iff ht' ht).mp (hentity.trans hot)
    exact ⟨_, hmem, rfl⟩
  · rw [mappedBy_of_mem_oneToMany h ha ho, targetField_of_mem_manyToOne hm, hma]
  · obtain ⟨t, ht, hentity, hmem⟩ := exists_manyToOne_of_mem_oneToMany h ha ho
    refine ⟨t, ht, hentity, (ManyToOne.toEntity a.entity).toField, ?_, ?_, rfl⟩
    · simp only [Context.Entity.fields, List.mem_append]
      exact Or.inl (Or.inr (List.mem_map_of_mem hmem))
    · rw [mappedBy_of_mem_oneToMany h ha ho, ManyToOne.toField, ManyToOne.toEntity]

end Unambiguous

/-- Orders with their items, in which edges repeat, two sorts of collections meet, a class is
associated with itself, and one end is missing. -/
def ordersDiagram : Diagram where
  classes := [.named "o" "order", .named "i" "order item"]
  relationships :=
    [.between .association "o" "i" ["1", "0..*"], .between .association "o" "i" ["1", "0..*"],
     .between .composition "o" "i" ["*", "*"], .between .aggregation "o" "o" ["1", "*"],
     .between .association "o" "gone" ["1", "*"], .between .generalization "i" "o" []]

theorem manyToOne_paired_orders :
    ordersDiagram.Unambiguous ∧
      ((ofDiagram ordersDiagram).relations (.named "i" "order item")).manyToOne.countP
          (fun m => m.targetEntity = ClassBox.entity (.named "o" "order")) =
        ((ofDiagram ordersDiagram).relations (.named "o" "order")).oneToMany.countP
            (fun o => o.targetEntity = ClassBox.entity (.named "i" "order item")) +
          ((ofDiagram ordersDiagram).relations (.named "o" "order")).manyToMany.countP
            (fun o => o.targetEntity = ClassBox.entity (.named "i" "order item")) ∧
      ((ofDiagram ordersDiagram).relations (.named "i" "order item")).manyToOne.length = 3 := by
  have h : ordersDiagram.Unambiguous := ⟨by decide, by decide +kernel⟩
  refine ⟨h, ?_, by decide +kernel⟩
  exact ((manyToOne_paired h "com.example").1 _ (by decide) _ (by decide)).1

end Index

end Scaffold

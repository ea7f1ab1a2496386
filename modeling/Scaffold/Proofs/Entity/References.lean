import Scaffold.Entity.Layers
import Scaffold.Proofs.Association.Inverse
import Scaffold.Proofs.Diagram.Lookup

/-!
# References between entities

The source of an entity names types in four places: its fields have types, its operations return
values, its relations lead to other entities, and it may extend one. A type tag is an arbitrary
text, and so is the identifier at an end of a relationship. Still everything that is named is there:
it is a type of the language, or the entity of a class of the diagram.

Types come to an entity in two ways. A tag is only taken for the name of a class if the index finds
that class (`Diagram.resolves_typeInDiagram`), and the field that becomes the key takes one of two
types (`Diagram.type_of_chooseKeyFrom`). The relations of a class are made by going through all
relationships, and a step only adds the entities of classes that were found at the ends of one
(`Diagram.leadTo_addRelationship`). The parent is such a class as well.

## Main definitions

* `builtinTypes`, `Diagram.Resolves`: the types that the source of an entity may name.
* `Diagram.Closes`: everything that the context of an entity names is there.
* `Relations.LeadTo`: all relations lead to entities with a property.

## Main results

* `closes_entityLayer`: every entity is closed.
-/

namespace Scaffold

/-- The types that need no class. -/
def builtinTypes : List String :=
  ["int", "long", "double", "BigDecimal", "String", "char", "boolean", "LocalDate",
   "LocalDateTime", "Object", "Long"]

namespace Diagram

/-- A class of the diagram has this entity name. -/
def HasEntity (d : Diagram) (entity : String) : Prop :=
  ∃ c ∈ d.classes, c.entity = entity

/-- A type needs no class, or it is the entity name of a class of the diagram. -/
inductive Resolves (d : Diagram) (type : String) : Prop
  | builtin (h : type ∈ builtinTypes)
  | entity (h : d.HasEntity type)

/-- Everything that the context of an entity names is there. Fields and operations have types that
need no class or are entities of the diagram. A field has a value; an operation has one to return
exactly if its type is not that of no value. Relations lead to entities of the diagram, and the
parent is one that is found. -/
structure Closes (d : Diagram) (entity : Context.Entity) : Prop where
  properties : ∀ p ∈ entity.properties, d.Resolves p.type ∧ p.type ≠ "void"
  stubs : ∀ s ∈ entity.stubs, (d.Resolves s.returnType ∨ s.returnType = "void") ∧
    (s.placeholder.isSome = true ↔ s.returnType ≠ "void")
  oneToOne : ∀ r ∈ entity.oneToOne, d.HasEntity r.targetEntity
  oneToMany : ∀ r ∈ entity.oneToMany, d.HasEntity r.targetEntity
  manyToOne : ∀ r ∈ entity.manyToOne, d.HasEntity r.targetEntity
  manyToMany : ∀ r ∈ entity.manyToMany, d.HasEntity r.targetEntity
  parent : ∀ name, entity.parentEntity = some name →
    ∃ c ∈ d.classes, c.entity = name ∧ (Index.ofDiagram d).findEntity? name = some c

variable {d : Diagram}

/-! ### Classes that are found -/

theorem isEntity_eq_true_iff {entity : String} :
    (Index.ofDiagram d).isEntity entity = true ↔ d.HasEntity entity := by
  rw [Index.isEntity, Index.findEntity?_ofDiagram, List.find?_isSome, HasEntity]
  simp only [beq_iff_eq]

/-- An entity of a class is found, though perhaps with another class. -/
theorem HasEntity.exists_findEntity? {entity : String} (h : d.HasEntity entity) :
    ∃ c ∈ d.classes, c.entity = entity ∧ (Index.ofDiagram d).findEntity? entity = some c := by
  obtain ⟨c, hfind⟩ := Option.isSome_iff_exists.mp (isEntity_eq_true_iff.mpr h)
  obtain ⟨hc, hentity⟩ := Index.mem_of_findEntity? hfind
  exact ⟨c, hc, hentity, hfind⟩

/-! ### Types of tags -/

theorem text_mem_builtinTypes {known : KnownType} (h : known.text ≠ "void") :
    known.text ∈ builtinTypes := by
  cases known <;> first | decide | exact absurd rfl h

/-- A tag stands for a type that is there, or for no value. -/
theorem resolves_typeInDiagram (tag : String) :
    d.Resolves (typeInDiagram (Index.ofDiagram d).isEntity tag) ∨
      typeInDiagram (Index.ofDiagram d).isEntity tag = "void" := by
  unfold typeInDiagram
  cases KnownType.ofTag? tag with
  | some known =>
    rcases eq_or_ne known.text "void" with hvoid | hvalue
    · exact .inr hvoid
    · exact .inl (.builtin (text_mem_builtinTypes hvalue))
  | none =>
    refine .inl ?_
    dsimp only
    split_ifs with hentity
    · exact .entity (isEntity_eq_true_iff.mp hentity)
    · exact .builtin (by decide)

/-- The type of a field is there, and it is not that of no value. -/
theorem resolves_attributeType (tag : String) :
    d.Resolves (attributeType (Index.ofDiagram d).isEntity tag) ∧
      attributeType (Index.ofDiagram d).isEntity tag ≠ "void" := by
  rw [attributeType]
  by_cases hvoid : isNoValue (typeInDiagram (Index.ofDiagram d).isEntity tag) = true
  · rw [if_pos hvoid]
    exact ⟨.builtin (by decide), by decide⟩
  · rw [if_neg hvoid]
    have hvalue : typeInDiagram (Index.ofDiagram d).isEntity tag ≠ "void" := by
      simpa [isNoValue, KnownType.text] using hvoid
    exact ⟨(resolves_typeInDiagram tag).resolve_right hvalue, hvalue⟩

/-! ### Members -/

theorem resolves_of_mem_properties {c : ClassBox} {p : Property}
    (h : p ∈ (Index.ofDiagram d).properties c) : d.Resolves p.type ∧ p.type ≠ "void" := by
  obtain ⟨a, -, rfl⟩ := List.mem_map.mp h
  simp only [Attribute.toProperty]
  exact resolves_attributeType a.tag

/-- The key takes the type of generated keys or that of natural ones. -/
theorem type_of_chooseKeyFrom {index : Nat} {ps : List Property} {key : KeyChoice}
    (h : chooseKeyFrom index ps = some key) :
    key.type = numericKeyType ∨ key.type = textKeyType := by
  induction ps generalizing index with
  | nil => cases h
  | cons p rest ih =>
    cases hform : keyForm? p.type with
    | none =>
      simp only [chooseKeyFrom, hform] at h
      exact ih h
    | some form =>
      simp only [chooseKeyFrom, hform, Option.some.injEq] at h
      subst h
      unfold keyForm? at hform
      split_ifs at hform <;> cases hform
      · exact .inl rfl
      · exact .inr rfl

/-- Marking the key changes the type of one property, to that of the key. -/
theorem mem_mark {key : KeyChoice} {ps : List Property} {p : Property} (h : p ∈ key.mark ps) :
    p ∈ ps ∨ p.type = key.type := by
  obtain ⟨i, hi⟩ := List.mem_iff_getElem?.mp h
  rw [KeyChoice.mark, List.getElem?_modify] at hi
  obtain ⟨q, hq, hqp⟩ := Option.map_eq_some_iff.mp hi
  split_ifs at hqp
  · subst hqp
    exact .inr rfl
  · subst hqp
    exact .inl (List.mem_of_getElem? hq)

/-- A field that a class declares has a type that is there: that of an attribute or that of the
key. -/
theorem resolves_of_mem_declaredProperties {c : ClassBox} {p : Property}
    (h : p ∈ (Index.ofDiagram d).declaredProperties c) : d.Resolves p.type ∧ p.type ≠ "void" := by
  unfold Index.declaredProperties at h
  split at h
  · exact resolves_of_mem_properties (List.mem_of_mem_filter h)
  · unfold Index.keyedProperties at h
    split at h
    · exact resolves_of_mem_properties h
    · rename_i key hkey
      rcases mem_mark h with hmem | htype
      · exact resolves_of_mem_properties hmem
      · rw [htype]
        rcases type_of_chooseKeyFrom hkey with hnumeric | htext
        · exact ⟨hnumeric ▸ .builtin (by decide), hnumeric ▸ by decide⟩
        · exact ⟨htext ▸ .builtin (by decide), htext ▸ by decide⟩

/-- The type of an operation is there, and it has a literal to return exactly if it returns a
value. -/
theorem resolves_toStub (m : Method) :
    let stub := m.toStub (Index.ofDiagram d).isEntity
    (d.Resolves stub.returnType ∨ stub.returnType = "void") ∧
      (stub.placeholder.isSome = true ↔ stub.returnType ≠ "void") := by
  simp only [Method.toStub, isNoValue, KnownType.text, beq_iff_eq]
  refine ⟨resolves_typeInDiagram _, ?_⟩
  split_ifs with hvoid <;> simp [hvoid]

end Diagram

/-! ### Relations -/

/-- All relations lead to entities with a property. -/
structure Relations.LeadTo (P : String → Prop) (found : Relations) : Prop where
  oneToOne : ∀ r ∈ found.oneToOne, P r.targetEntity
  oneToMany : ∀ r ∈ found.oneToMany, P r.targetEntity
  manyToOne : ∀ r ∈ found.manyToOne, P r.targetEntity
  manyToMany : ∀ r ∈ found.manyToMany, P r.targetEntity

namespace Relations.LeadTo

variable {P : String → Prop} {found : Relations} {source target : String}

theorem below (parent : Option String) : (Relations.below parent).LeadTo P where
  oneToOne := List.forall_mem_nil _
  oneToMany := List.forall_mem_nil _
  manyToOne := List.forall_mem_nil _
  manyToMany := List.forall_mem_nil _

theorem addAtSource (h : found.LeadTo P) (m : Multiplicity) (htarget : P target) :
    (found.addAtSource m source target).LeadTo P := by
  obtain ⟨sourceIsMany, targetIsMany⟩ := m
  cases sourceIsMany <;> cases targetIsMany
  · exact { h with oneToOne := List.forall_mem_append.mpr ⟨h.oneToOne, by simpa⟩ }
  · exact { h with oneToMany := List.forall_mem_append.mpr ⟨h.oneToMany, by simpa⟩ }
  · exact h
  · exact { h with manyToMany := List.forall_mem_append.mpr ⟨h.manyToMany, by simpa⟩ }

theorem addAtTarget (h : found.LeadTo P) (m : Multiplicity) (hsource : P source) :
    (found.addAtTarget m source).LeadTo P := by
  unfold Relations.addAtTarget
  split_ifs
  · exact { h with manyToOne := List.forall_mem_append.mpr ⟨h.manyToOne, by simpa⟩ }
  · exact h

end Relations.LeadTo

namespace Diagram

variable {d : Diagram} {focal : ClassBox}

/-- A relationship only adds relations to the entities at its ends, and only if they are found. -/
theorem leadTo_addRelationship {found : Relations} (h : found.LeadTo d.HasEntity)
    (r : Relationship) :
    ((Index.ofDiagram d).addRelationship focal found r).LeadTo d.HasEntity := by
  unfold Index.addRelationship
  cases hends : (Index.ofDiagram d).ends r with
  | none => exact h
  | some pair =>
    obtain ⟨source, target⟩ := pair
    obtain ⟨hfindSource, hfindTarget⟩ := Index.ends_eq_some_iff.mp hends
    have hsource : d.HasEntity source.entity := ⟨source, Index.mem_of_findId? hfindSource, rfl⟩
    have htarget : d.HasEntity target.entity := ⟨target, Index.mem_of_findId? hfindTarget, rfl⟩
    dsimp only
    split_ifs
    · exact (h.addAtSource _ htarget).addAtTarget _ hsource
    · exact h.addAtTarget _ hsource
    · exact h.addAtSource _ htarget
    · exact h
    · exact h

/-- Going through the relationships keeps to entities of the diagram. -/
theorem leadTo_foldl_addRelationship (rs : List Relationship) {found : Relations}
    (h : found.LeadTo d.HasEntity) :
    (rs.foldl ((Index.ofDiagram d).addRelationship focal) found).LeadTo d.HasEntity := by
  induction rs generalizing found with
  | nil => exact h
  | cons r rest ih => exact ih (leadTo_addRelationship h r)

theorem leadTo_relations (focal : ClassBox) :
    ((Index.ofDiagram d).relations focal).LeadTo d.HasEntity :=
  leadTo_foldl_addRelationship _ (.below _)

/-- The parent that a class names is an entity of the diagram. -/
theorem hasEntity_of_parentEntity {entity : String}
    (h : (Index.ofDiagram d).parentEntity focal = some entity) : d.HasEntity entity := by
  obtain ⟨parent, hlast, rfl⟩ := Option.map_eq_some_iff.mp h
  obtain ⟨r, -, hr⟩ := List.mem_filterMap.mp (List.mem_of_getLast? hlast)
  split_ifs at hr
  obtain ⟨⟨source, target⟩, hends, htarget⟩ := Option.bind_eq_some_iff.mp hr
  dsimp only at htarget
  split_ifs at htarget
  obtain rfl := Option.some.inj htarget
  exact ⟨target, Index.mem_of_findId? (Index.ends_eq_some_iff.mp hends).2, rfl⟩

end Diagram

/-- **Every entity is closed.** Whatever a diagram says, all that the context of an entity names is
a type that needs no class or the entity of a class of the diagram, and the parent is one that the
index finds. -/
theorem closes_entityLayer (d : Diagram) (basePackage : String) (c : ClassBox) :
    d.Closes ((Index.ofDiagram d).entityLayer basePackage c) := by
  have hrelations := d.leadTo_relations c
  refine ⟨fun p hp => Diagram.resolves_of_mem_declaredProperties hp, fun s hs => ?_,
    hrelations.oneToOne, hrelations.oneToMany, hrelations.manyToOne, hrelations.manyToMany,
    fun name hname => ?_⟩
  · obtain ⟨m, -, rfl⟩ := List.mem_map.mp hs
    exact Diagram.resolves_toStub m
  · have hparent : (Index.ofDiagram d).parentEntity c = some name :=
      Index.relations_parentEntity _ c ▸ hname
    exact (Diagram.hasEntity_of_parentEntity hparent).exists_findEntity?

end Scaffold

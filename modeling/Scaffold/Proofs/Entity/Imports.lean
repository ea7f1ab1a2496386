import Mathlib.Data.String.Basic
import Scaffold.Proofs.Entity.Fields

/-!
# The imports of an entity

What the source of an entity imports is told from its context, and the fields are written apart from
that. The imports still fit what is declared. The names of the collections are imported if the class
has relations of one of the two sorts that become collections, which are the fields with a type that
holds a list (`Index.exists_isCollection_iff`). All other names are told from the types of the
fields as they are declared, with the key in the form it takes and without a property that a key
made up by the entity replaces, and from the types that operations return.

## Main definitions

* `Context.Entity.Uses`: a type is that of a field or is returned by an operation.
* `Context.Entity.Needs`: a name has to be imported for what an entity declares.

## Main results

* `Context.Entity.mem_sortedSet`, `Context.Entity.pairwise_sortedSet`: a sorted set of texts.
* `imports_exact`: the imports of an entity are what it needs, in order.
-/

namespace Scaffold

namespace Context.Entity

/-! ### Sorted sets of texts -/

theorem mem_insertSorted {s t : String} {l : List String} :
    s ∈ insertSorted t l ↔ s = t ∨ s ∈ l := by
  induction l with
  | nil => simp [insertSorted]
  | cons u l ih =>
    unfold insertSorted
    split_ifs with hlt heq
    · rw [List.mem_cons]
    · rw [heq, List.mem_cons, or_self_left]
    · rw [List.mem_cons, List.mem_cons, ih, or_left_comm]

/-- A text is put in front of the first one that is greater. -/
theorem pairwise_insertSorted {t : String} {l : List String} (h : l.Pairwise (· < ·)) :
    (insertSorted t l).Pairwise (· < ·) := by
  induction l with
  | nil => exact List.pairwise_singleton _ _
  | cons u l ih =>
    obtain ⟨hu, hl⟩ := List.pairwise_cons.mp h
    unfold insertSorted
    split_ifs with hlt heq
    · refine List.pairwise_cons.mpr ⟨?_, h⟩
      rw [List.forall_mem_cons]
      exact ⟨hlt, fun s hs => lt_trans hlt (hu s hs)⟩
    · exact h
    · refine List.pairwise_cons.mpr ⟨fun s hs => ?_, ih hl⟩
      rcases mem_insertSorted.mp hs with rfl | hs
      · exact lt_of_le_of_ne (not_lt.mp hlt) fun hut => heq hut.symm
      · exact hu s hs

@[simp] theorem mem_sortedSet {s : String} {texts : List String} :
    s ∈ sortedSet texts ↔ s ∈ texts := by
  induction texts with
  | nil => rfl
  | cons t texts ih =>
    rw [sortedSet, List.foldr_cons, mem_insertSorted, List.mem_cons]
    exact or_congr_right ih

theorem pairwise_sortedSet (texts : List String) : (sortedSet texts).Pairwise (· < ·) := by
  induction texts with
  | nil => exact List.Pairwise.nil
  | cons t texts ih => exact pairwise_insertSorted ih

/-! ### What is needed -/

/-- A type is that of a field of the entity, or an operation returns it. -/
def Uses (e : Context.Entity) (type : String) : Prop :=
  (∃ f ∈ e.fields, f.type = type) ∨ ∃ s ∈ e.stubs, s.returnType = type

/-- A name has to be imported for what an entity declares: the marks always, the names that go with
collections for a field that holds a list, and a type of the libraries where it is used. -/
inductive Needs (e : Context.Entity) : String → Prop
  | marks : Needs e "jakarta.persistence.*"
  | collection {name : String}
      (hname : name ∈ ["java.util.List", "java.util.ArrayList",
        "com.fasterxml.jackson.annotation.JsonIgnore"])
      (h : ∃ f ∈ e.fields, f.IsCollection) : Needs e name
  | type {type name : String}
      (hname : (type, name) ∈ [("BigDecimal", "java.math.BigDecimal"),
        ("LocalDate", "java.time.LocalDate"), ("LocalDateTime", "java.time.LocalDateTime")])
      (h : e.Uses type) : Needs e name

theorem qualifiedName?_eq_some_iff {type name : String} :
    qualifiedName? type = some name ↔ (type, name) ∈ qualifiedNames := by
  have hall : ∀ row ∈ qualifiedNames, qualifiedName? row.1 = some row.2 := by decide
  refine ⟨fun h => ?_, hall (type, name)⟩
  obtain ⟨before, after, hrows, -⟩ := List.lookup_eq_some_iff.mp h
  rw [hrows]
  exact List.mem_append_right _ List.mem_cons_self

/-- What a context imports: the marks, the names that go with its collections, and the types that it
uses and that have to be imported. -/
theorem mem_imports {e : Context.Entity} {name : String} :
    name ∈ e.imports ↔ name = "jakarta.persistence.*" ∨
      (name ∈ collectionImports ∧ (e.oneToMany ≠ [] ∨ e.manyToMany ≠ [])) ∨
      ∃ type, (type, name) ∈ qualifiedNames ∧ e.Uses type := by
  have hcollections :
      name ∈ (if e.oneToMany.isEmpty && e.manyToMany.isEmpty then [] else collectionImports) ↔
        name ∈ collectionImports ∧ (e.oneToMany ≠ [] ∨ e.manyToMany ≠ []) := by
    by_cases hone : e.oneToMany = [] <;> by_cases hmany : e.manyToMany = [] <;> simp [hone, hmany]
  have htypes : ∀ type, type ∈ e.fields.map SourceField.type ++ e.stubs.map Stub.returnType ↔
      e.Uses type := by
    intro type
    rw [List.mem_append, List.mem_map, List.mem_map, Uses]
  rw [imports, mem_sortedSet, List.mem_append, List.mem_cons, hcollections, List.mem_filterMap,
    or_assoc]
  simp only [htypes, qualifiedName?_eq_some_iff, and_comm]

/-- The source of an entity opens with its package and its imports. -/
theorem exists_source_eq (e : Context.Entity) :
    ∃ rest, e.source = textOfLines (["package " ++ e.basePackage ++ ".model;", ""] ++
      e.imports.map (fun name => "import " ++ name ++ ";") ++ ["", "@Entity"] ++ rest) := by
  refine ⟨e.heading ++ (e.fields.flatMap SourceField.declaration ++
    (["", "    public " ++ e.entityName ++ "() \x7b", "    \x7d"] ++
      (e.fields.flatMap SourceField.accessors ++ (e.stubs.flatMap Stub.lines ++ ["\x7d"])))), ?_⟩
  rw [source]
  simp only [List.append_assoc]

end Context.Entity

/-- **The imports of an entity are what it needs.** They are in ascending order, none is repeated,
and they are exactly the names that have to be imported for the fields that are declared and the
types that the operations return. They stand, one to a line, in front of the class. -/
theorem imports_exact (d : Diagram) (basePackage : String) (c : ClassBox) :
    let entity := (Index.ofDiagram d).entityLayer basePackage c
    entity.imports.Nodup ∧ entity.imports.Pairwise (· < ·) ∧
      (∀ name, name ∈ entity.imports ↔ entity.Needs name) ∧
      ∃ rest, entity.source = textOfLines (["package " ++ basePackage ++ ".model;", ""] ++
        entity.imports.map (fun name => "import " ++ name ++ ";") ++ ["", "@Entity"] ++ rest) := by
  intro entity
  have hsorted : entity.imports.Pairwise (· < ·) := Context.Entity.pairwise_sortedSet _
  refine ⟨hsorted.imp ne_of_lt, hsorted, fun name => ?_, entity.exists_source_eq⟩
  have hcollections : (∃ f ∈ entity.fields, f.IsCollection) ↔
      entity.oneToMany ≠ [] ∨ entity.manyToMany ≠ [] :=
    Index.exists_isCollection_iff d basePackage c
  have hnames : name ∈ Context.Entity.collectionImports ↔ name ∈ ["java.util.List",
      "java.util.ArrayList", "com.fasterxml.jackson.annotation.JsonIgnore"] :=
    (List.reverse_perm Context.Entity.collectionImports).mem_iff.symm
  rw [Context.Entity.mem_imports, ← hcollections]
  constructor
  · rintro (rfl | ⟨hname, hcollection⟩ | ⟨type, hrow, huses⟩)
    · exact .marks
    · exact .collection (hnames.mp hname) hcollection
    · exact .type hrow huses
  · intro h
    cases h with
    | marks => exact .inl rfl
    | collection hname hcollection => exact .inr (.inl ⟨hnames.mpr hname, hcollection⟩)
    | type hrow huses => exact .inr (.inr ⟨_, hrow, huses⟩)

end Scaffold

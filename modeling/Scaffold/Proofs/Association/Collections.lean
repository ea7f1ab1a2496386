import Scaffold.Proofs.Association.Inverse
import Scaffold.Proofs.Naming.Plurals

/-!
# The names of collections

A class has collections of two sorts, and both are named by the plural of the field identifier of
the class they hold. In a diagram whose class names are in ASCII all these names have the form of
field identifiers, because type identifiers are in ASCII again and the plural keeps the form. They
are field identifiers except for the collections of three classes, whose plural is a reserved word:
reserved words are avoided in the field identifier, and the plural is taken afterwards.

## Main definitions

* `Relations.Collects`: the collections of a class, of both sorts.
* `Diagram.HasAsciiNames`: the names of the classes are in ASCII.

## Main results

* `Index.collects_entity`: collections hold classes of the diagram.
* `collectionField_isFieldIdentifier_iff`: which collections are named by field identifiers.
-/

namespace Scaffold

open Naming (IsIdentifier IsFieldIdentifier fieldName plural)

/-- A class has a collection of an entity under a name, of one sort or the other. -/
inductive Relations.Collects (found : Relations) : String → String → Prop
  | oneToMany {o : OneToMany} :
      o ∈ found.oneToMany → Collects found o.targetEntity o.collectionField
  | manyToMany {o : ManyToMany} :
      o ∈ found.manyToMany → Collects found o.targetEntity o.collectionField

/-- The names of the classes of a diagram are in ASCII. -/
def Diagram.HasAsciiNames (d : Diagram) : Prop :=
  ∀ c ∈ d.classes, c.name.toList.all Unicode.isAscii = true

instance (d : Diagram) : Decidable d.HasAsciiNames :=
  inferInstanceAs (Decidable (∀ c ∈ d.classes, _))

namespace Index

/-- Collections hold classes of the diagram and are named for them. -/
theorem collects_entity {d : Diagram} {focal : ClassBox} {entity field : String}
    (h : ((ofDiagram d).relations focal).Collects entity field) :
    (∃ target ∈ d.classes, entity = target.entity) ∧ field = plural (fieldName entity) := by
  cases h with
  | oneToMany ho =>
    obtain ⟨r, -, source, target, hends, -, -, -, rfl⟩ := mem_relations_oneToMany.mp ho
    exact ⟨⟨target, mem_of_findId? (ends_eq_some_iff.mp hends).2, rfl⟩, rfl⟩
  | manyToMany ho =>
    obtain ⟨r, -, source, target, hends, -, -, -, rfl⟩ := mem_relations_manyToMany.mp ho
    exact ⟨⟨target, mem_of_findId? (ends_eq_some_iff.mp hends).2, rfl⟩, rfl⟩

end Index

/-- The type identifier of a class with a name in ASCII is in ASCII. -/
theorem Diagram.HasAsciiNames.isFieldIdentifier {d : Diagram} (h : d.HasAsciiNames) {c : ClassBox}
    (hc : c ∈ d.classes) : IsFieldIdentifier (fieldName c.entity) := by
  have hentity := Naming.isTypeIdentifier_entityName (List.all_eq_true.mp (h c hc))
  exact Naming.isFieldIdentifier_fieldName fun letter hletter =>
    Unicode.isAscii_of_isAlphanum (List.all_eq_true.mp hentity.2.1 letter hletter)

/-- **Collections are named by field identifiers but for three classes.** In a diagram whose class
names are in ASCII, the name of every collection is made of letters and digits and starts with a
small letter, and it is a reserved word exactly if the field identifier of the collected class is
one of three. -/
theorem collectionField_isFieldIdentifier_iff {d : Diagram} (h : d.HasAsciiNames)
    (focal : ClassBox) {entity field : String}
    (hfield : ((Index.ofDiagram d).relations focal).Collects entity field) :
    IsIdentifier Char.isLower field ∧
      (IsFieldIdentifier field ↔ fieldName entity ∉ ["extend", "implement", "thi"]) := by
  obtain ⟨⟨target, htarget, rfl⟩, rfl⟩ := Index.collects_entity hfield
  have hname := h.isFieldIdentifier htarget
  exact ⟨hname.1.plural, Naming.isFieldIdentifier_plural_iff hname⟩

/-- A farm with its implements and its fields. -/
def farmDiagram : Diagram where
  classes := [.named "f" "farm", .named "i" "implement", .named "p" "potato field"]
  relationships :=
    [.between .association "f" "i" ["1", "*"], .between .aggregation "f" "p" ["*", "1..*"]]

theorem collectionField_isFieldIdentifier_iff_farm :
    farmDiagram.HasAsciiNames ∧
      ((Index.ofDiagram farmDiagram).relations (.named "f" "farm")).Collects
        "PotatoField" "potatoFields" ∧
      IsFieldIdentifier "potatoFields" := by
  have hnames : farmDiagram.HasAsciiNames := by decide +kernel
  have hmember : ManyToMany.between "Farm" "PotatoField" ∈
      ((Index.ofDiagram farmDiagram).relations (.named "f" "farm")).manyToMany := by
    decide +kernel
  have hcollects : ((Index.ofDiagram farmDiagram).relations (.named "f" "farm")).Collects
      "PotatoField" "potatoFields" := by
    have hfield : (ManyToMany.between "Farm" "PotatoField").collectionField = "potatoFields" := by
      decide +kernel
    exact hfield ▸ .manyToMany hmember
  exact ⟨hnames, hcollects,
    (collectionField_isFieldIdentifier_iff hnames _ hcollects).2.mpr (by decide +kernel)⟩

/-- A collection of a class of a diagram in ASCII may be named by a reserved word. -/
theorem exists_collectionField_reserved :
    ∃ d : Diagram, d.HasAsciiNames ∧ ∃ focal ∈ d.classes, ∃ entity field,
      ((Index.ofDiagram d).relations focal).Collects entity field ∧
        field ∈ Naming.reservedWords := by
  have hmember : OneToMany.between "Farm" "Implement" ∈
      ((Index.ofDiagram farmDiagram).relations (.named "f" "farm")).oneToMany := by
    decide +kernel
  exact ⟨farmDiagram, by decide +kernel, .named "f" "farm", by decide, _, _, .oneToMany hmember,
    by decide +kernel⟩

end Scaffold

import Scaffold.Proofs.Diagram.Repeated
import Scaffold.Proofs.Entity.Correspondence
import Scaffold.Proofs.Naming.Separators

/-!
# White space in a diagram

The texts of a diagram are read in many places: names become identifiers, type tags are compared
with the known ones and otherwise looked up as names, a return type says whether there is a value,
and a label says whether an end is many. None of them looks at the white space around a text. So the
normal form of a diagram, in which all of it is gone, gives every class the same contexts.

The identifiers of classes and the ends of relationships are the exception. They are compared as
they are, and a blank identifier is replaced in the normal form, so they have to be in that form
already.

## Main definitions

* `Diagram.IdsNormal`: the identifiers of a diagram are as they are in its normal form.

## Main results

* `Attribute.toProperty_normalize`, `Method.toStub_normalize`: the normal forms of members.
* `layers_normalize`: the contexts from a diagram and from its normal form.
-/

namespace Scaffold

/-! ### Type tags -/

theorem KnownType.ofTag?_trim (tag : String) : ofTag? (Text.trim tag) = ofTag? tag := by
  rw [ofTag?, ofTag?, Text.trim_trim]

theorem referenceType_trim (tag : String) : referenceType (Text.trim tag) = referenceType tag := by
  unfold referenceType
  rw [KnownType.ofTag?_trim, Naming.entityName_trim, Text.toList_trim,
    Text.any_trimChars fun c hc => Unicode.not_isAlphanumeric_of_isWhiteSpace hc]

theorem typeInDiagram_trim (isEntity : String → Bool) (tag : String) :
    typeInDiagram isEntity (Text.trim tag) = typeInDiagram isEntity tag := by
  unfold typeInDiagram
  rw [KnownType.ofTag?_trim, referenceType_trim]

/-! ### Members -/

theorem Attribute.toProperty_normalize (isEntity : String → Bool) (a : Attribute) :
    a.normalize.toProperty isEntity = a.toProperty isEntity := by
  rw [toProperty, toProperty, normalize, Naming.fieldName_trim, attributeType, attributeType,
    typeInDiagram_trim]

theorem Method.toStub_normalize (isEntity : String → Bool) (m : Method) :
    m.normalize.toStub isEntity = m.toStub isEntity := by
  have hreturn : typeInDiagram isEntity ((m.returnType.map Text.trim).getD "") =
      typeInDiagram isEntity (m.returnType.getD "") := by
    cases m.returnType with
    | none => rfl
    | some tag => exact typeInDiagram_trim isEntity tag
  simp only [toStub, normalize, Naming.fieldName_trim, hreturn]

theorem ClassBox.entity_normalize (c : ClassBox) : c.normalize.entity = c.entity := by
  rw [entity, entity, normalize, Naming.entityName_trim]

theorem Index.properties_normalize (x : Index) (c : ClassBox) :
    x.properties c.normalize = x.properties c := by
  rw [properties, properties, ClassBox.normalize, List.map_map]
  exact List.map_congr_left fun a _ => a.toProperty_normalize x.isEntity

/-! ### Relationships -/

theorem Multiplicity.isMany_trim (label : String) : isMany (Text.trim label) = isMany label := by
  rw [isMany, isMany, Text.toList_trim, Text.any_trimChars]
  intro c hc
  rw [beq_eq_false_iff_ne]
  rintro rfl
  cases hc

/-- White space around a label does not matter, and neither does it in a missing one. -/
theorem Multiplicity.ofLabels_trim (labels : List String) :
    ofLabels (labels.map Text.trim) = ofLabels labels := by
  have hany : ∀ label? : Option String, (label?.map Text.trim).any isMany = label?.any isMany := by
    intro label?
    cases label? with
    | none => rfl
    | some label => rw [Option.map_some, Option.any_some, Option.any_some, isMany_trim]
  rw [ofLabels, ofLabels, List.getElem?_map, List.getElem?_map, hany, hany]

theorem Relationship.like_normalize {r : Relationship} (hsource : Text.trim r.sourceId = r.sourceId)
    (htarget : Text.trim r.targetId = r.targetId) : r.Like r.normalize where
  kind := rfl
  source := hsource.symm
  target := htarget.symm
  multiplicity := (Multiplicity.ofLabels_trim r.labels).symm

/-! ### Diagrams -/

/-- The identifiers of the classes are trimmed and not blank, and those of the ends of relationships
are trimmed. -/
structure Diagram.IdsNormal (d : Diagram) : Prop where
  classes : ∀ c ∈ d.classes, Text.trim c.id = c.id ∧ c.id ≠ ""
  relationships : ∀ r ∈ d.relationships,
    Text.trim r.sourceId = r.sourceId ∧ Text.trim r.targetId = r.targetId

instance (d : Diagram) : Decidable d.IdsNormal :=
  decidable_of_iff
    ((∀ c ∈ d.classes, Text.trim c.id = c.id ∧ c.id ≠ "") ∧
      ∀ r ∈ d.relationships, Text.trim r.sourceId = r.sourceId ∧ Text.trim r.targetId = r.targetId)
    ⟨fun ⟨h, h'⟩ => ⟨h, h'⟩, fun ⟨h, h'⟩ => ⟨h, h'⟩⟩

/-- The class in the normal form of a diagram that a class with a normal identifier becomes. -/
def ClassBox.NormalizesTo (c c' : ClassBox) : Prop :=
  c' = c.normalize ∧ c'.id = c.id

theorem ClassBox.id_normalize_eq {c : ClassBox} (htrim : Text.trim c.id = c.id) (hne : c.id ≠ "") :
    c.normalize.id = c.id := by
  rw [normalize, htrim, if_neg hne]

/-- A diagram with normal identifiers corresponds to its normal form. -/
theorem Diagram.IdsNormal.corresponds {d : Diagram} (h : d.IdsNormal) :
    d.Corresponds ClassBox.NormalizesTo d.normalize where
  classes := by
    rw [normalize, List.forall₂_map_right_iff, List.forall₂_same]
    intro c hc
    obtain ⟨htrim, hne⟩ := h.classes c hc
    exact ⟨rfl, ClassBox.id_normalize_eq htrim hne⟩
  relationships := by
    rw [normalize, List.forall₂_map_right_iff, List.forall₂_same]
    intro r hr
    obtain ⟨hsource, htarget⟩ := h.relationships r hr
    exact Relationship.like_normalize hsource htarget
  ids hc := hc.2.symm
  names := by
    rintro c _ ⟨rfl, -⟩
    exact c.entity_normalize.symm

/-- **White space around texts does not matter.** If the identifiers of a diagram are in their
normal form, then its classes have, one by one, the contexts that they have in its normal form.
Nothing is asked of the other texts, and classes may share identifiers and names. -/
theorem layers_normalize {d : Diagram} (h : d.IdsNormal) (basePackage : String) :
    d.normalize.classes.map ((Index.ofDiagram d.normalize).layers basePackage) =
      d.classes.map ((Index.ofDiagram d).layers basePackage) := by
  have hmatches := h.corresponds.index_matches
  have hproperties : ∀ c c', ClassBox.NormalizesTo c c' →
      (Index.ofDiagram d).properties c = (Index.ofDiagram d.normalize).properties c' := by
    rintro c _ ⟨rfl, -⟩
    rw [Index.properties_normalize, Index.properties, Index.properties, hmatches.isEntity_eq]
  rw [Diagram.normalize, List.map_map]
  refine List.map_congr_left fun c hc => Eq.symm ?_
  obtain ⟨htrim, hne⟩ := h.classes c hc
  have hcorresponds : c.NormalizesTo c.normalize := ⟨rfl, ClassBox.id_normalize_eq htrim hne⟩
  refine hmatches.layers_eq hcorresponds (hproperties _ _ hcorresponds) ?_ ?_ ?_ basePackage
  · rw [← hmatches.isEntity_eq, ClassBox.normalize, List.map_map]
    exact (List.map_congr_left fun m _ => m.toStub_normalize _).symm
  · refine option_rel_imp (fun p p' hp => ?_) (hmatches.parent?_rel hcorresponds)
    rw [hproperties p p' hp]
  · rw [Index.ownKey, Index.ownKey, hproperties _ _ (hmatches.root_rel hcorresponds)]

/-- A diagram with white space around every text that may have some: names of one line and of
several, tags and return types that name a class, a known type or nothing, and labels. The child
declares a field that its parent declares too, spelled with other spaces. -/
def spacedDiagram : Diagram where
  classes :=
    [{ id := "v", name := "\tVehicle\n"
       attributes := [⟨" id ", " int"⟩, ⟨"owner name", "\u00a0text "⟩]
       methods := [⟨" honk ", some " \n", some " loud "⟩, ⟨"parent", some " car ", none⟩] },
     { id := "c", name := "  car"
       attributes := [⟨"ID\t", "int "⟩, ⟨" maker ", " vehicle "⟩, ⟨"x", " *** "⟩]
       methods := [] }]
  relationships :=
    [.between .generalization "c" "v" [],
     .between .association "v" "c" [" 1 ", " 0..* "]]

theorem layers_normalize_spaced :
    spacedDiagram.IdsNormal ∧ spacedDiagram.normalize ≠ spacedDiagram ∧
      spacedDiagram.normalize.classes.map
          ((Index.ofDiagram spacedDiagram.normalize).layers "com.example") =
        spacedDiagram.classes.map ((Index.ofDiagram spacedDiagram).layers "com.example") := by
  have h : spacedDiagram.IdsNormal := by decide +kernel
  exact ⟨h, by decide +kernel, layers_normalize h "com.example"⟩

end Scaffold

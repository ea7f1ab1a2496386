import Scaffold.Proofs.Association.Collections
import Scaffold.Proofs.Entity.Members
import Scaffold.Proofs.Entity.References
import Scaffold.Proofs.Naming.Accessors

/-!
# The fields of an entity

A field comes about in one of six ways: it is the key that an entity without one makes up, the field
of a property, or the field of a relation of one of four sorts. What holds of all fields is proved
for each of these (`Context.Entity.forall_mem_fields`). Two things are said here: only the two sorts
of collections have a type that holds a list, and where names are in ASCII, fields have names that
start with small letters, so that no two fields have an accessor in common unless they have the
same name.

## Main definitions

* `SourceField.IsCollection`: a field with a type that holds a list.

## Main results

* `Context.Entity.forall_mem_fields`: what has to be shown of all fields.
* `Index.exists_isCollection_iff`: which entities have fields that hold lists.
* `accessors_apart`: the accessors of fields and their names.
-/

namespace Scaffold

open Naming (IsIdentifier StartsWithLetter camelName entityName fieldName getter reservedWords
  setter)

/-- What holds of the fields of every sort holds of all fields. -/
theorem Context.Entity.forall_mem_fields {e : Context.Entity} {P : SourceField → Prop}
    (hkey : P syntheticKey) (hproperties : ∀ p ∈ e.properties, P p.toField)
    (honeToOne : ∀ r ∈ e.oneToOne, P r.toField) (honeToMany : ∀ r ∈ e.oneToMany, P r.toField)
    (hmanyToOne : ∀ r ∈ e.manyToOne, P r.toField)
    (hmanyToMany : ∀ r ∈ e.manyToMany, P r.toField) : ∀ f ∈ e.fields, P f := by
  have hpropertyFields : ∀ f ∈ e.propertyFields, P f := by
    unfold propertyFields
    split_ifs
    · rw [List.forall_mem_cons, List.forall_mem_map]
      exact ⟨hkey, fun p hp => hproperties p (List.mem_of_mem_filter hp)⟩
    · rwa [List.forall_mem_map]
  simp only [fields, List.forall_mem_append, List.forall_mem_map]
  exact ⟨⟨⟨⟨hpropertyFields, honeToOne⟩, honeToMany⟩, hmanyToOne⟩, hmanyToMany⟩

/-! ### Types -/

/-- A field has a type that holds a list. -/
def SourceField.IsCollection (f : SourceField) : Prop :=
  ∃ entity, f.type = collectionType entity

/-- A type that needs no class or is the entity of one holds no list. -/
theorem Diagram.Resolves.ne_collectionType {d : Diagram} {type : String} (h : d.Resolves type)
    (entity : String) : type ≠ collectionType entity := by
  have hbracket : '<' ∈ (collectionType entity).toList := by
    rw [collectionType, String.toList_append, String.toList_append]
    exact List.mem_append_left _ (List.mem_append_left _ (by decide))
  intro heq
  rw [← heq] at hbracket
  cases h with
  | builtin hbuiltin =>
    have hall : ∀ t ∈ builtinTypes, '<' ∉ t.toList := by decide
    exact hall _ hbuiltin hbracket
  | entity hentity =>
    obtain ⟨c, -, rfl⟩ := hentity
    exact absurd (Naming.isPlain_of_mem_entityName c.name '<' hbracket) (by decide +kernel)

namespace Index

variable {d : Diagram} {c : ClassBox}

/-- The fields that hold lists are those of the two sorts of collections. -/
theorem exists_isCollection_iff (d : Diagram) (basePackage : String) (c : ClassBox) :
    let entity := (ofDiagram d).entityLayer basePackage c
    (∃ f ∈ entity.fields, f.IsCollection) ↔ entity.oneToMany ≠ [] ∨ entity.manyToMany ≠ [] := by
  intro entity
  have hrelations := d.leadTo_relations c
  constructor
  · rintro ⟨f, hf, hcollection⟩
    have hlong : d.Resolves numericKeyType := .builtin (by decide)
    revert f
    refine Context.Entity.forall_mem_fields ?_ ?_ ?_ ?_ ?_ ?_
    · exact fun ⟨entity, htype⟩ => absurd htype (hlong.ne_collectionType entity)
    · intro p hp ⟨entity, htype⟩
      have hresolves := (Diagram.resolves_of_mem_declaredProperties hp).1
      exact absurd htype (hresolves.ne_collectionType entity)
    · intro r hr ⟨entity, htype⟩
      have hresolves : d.Resolves r.targetEntity := .entity (hrelations.oneToOne r hr)
      exact absurd htype (hresolves.ne_collectionType entity)
    · exact fun r hr _ => .inl (List.ne_nil_of_mem hr)
    · intro r hr ⟨entity, htype⟩
      have hresolves : d.Resolves r.targetEntity := .entity (hrelations.manyToOne r hr)
      exact absurd htype (hresolves.ne_collectionType entity)
    · exact fun r hr _ => .inr (List.ne_nil_of_mem hr)
  · simp only [Context.Entity.fields, List.mem_append]
    rintro (hsome | hsome) <;> obtain ⟨r, hr⟩ := List.exists_mem_of_ne_nil _ hsome
    · exact ⟨r.toField, .inl (.inl (.inr (List.mem_map_of_mem hr))), r.targetEntity, rfl⟩
    · exact ⟨r.toField, .inr (List.mem_map_of_mem hr), r.targetEntity, rfl⟩

/-! ### Names -/

theorem map_name_markKey (ps : List Property) :
    (markKey ps).map Property.name = ps.map Property.name := by
  have hmarked : ∃ key, KeyMarked false ps (markKey ps) key := ⟨_, keyMarked_iff.mpr ⟨rfl, rfl⟩⟩
  obtain ⟨key, hmarked⟩ := hmarked
  generalize markKey ps = marked at hmarked
  cases hmarked with
  | none => rfl
  | first => simp

/-- The properties that a class declares have the names of its attributes as fields. -/
theorem name_of_mem_declaredProperties {x : Index} {p : Property}
    (h : p ∈ x.declaredProperties c) : p.name ∈ c.fieldNames := by
  rw [← x.map_name_properties c]
  unfold declaredProperties at h
  split at h
  · exact List.mem_map_of_mem (List.mem_of_mem_filter h)
  · rw [← map_name_markKey]
    exact List.mem_map_of_mem h

/-- A single reference comes from a relationship that starts at the class and is many at neither
end. -/
theorem mem_relations_oneToOne {x : Index} {focal : ClassBox} {o : OneToOne} :
    o ∈ (x.relations focal).oneToOne ↔
      ∃ r ∈ x.diagram.relationships, ∃ source target, x.ends r = some (source, target) ∧
        r.kind.isPersistent ∧ source.id = focal.id ∧
        Multiplicity.ofLabels r.labels = ⟨false, false⟩ ∧ o = .toEntity target.entity := by
  simpa only [and_assoc] using
    mem_relations_bucket (fun _ _ => rfl) (fun _ => rfl) given_oneToOne o

/-- In a diagram in ASCII the name of every field starts with a small letter, and the others are
letters and digits. -/
theorem isIdentifier_of_mem_fields (h : d.HasAsciiNames)
    (hattributes : ∀ a ∈ c.attributes, a.name.toList.all Unicode.isAscii = true)
    (basePackage : String) :
    ∀ f ∈ ((ofDiagram d).entityLayer basePackage c).fields, IsIdentifier Char.isLower f.name := by
  have hentity : ∀ {r : Relationship} {source target : ClassBox},
      (ofDiagram d).ends r = some (source, target) →
        IsIdentifier Char.isLower (fieldName source.entity) ∧
          IsIdentifier Char.isLower (fieldName target.entity) := by
    intro r source target hends
    obtain ⟨hsource, htarget⟩ := ends_eq_some_iff.mp hends
    exact ⟨(h.isFieldIdentifier (mem_of_findId? hsource)).1,
      (h.isFieldIdentifier (mem_of_findId? htarget)).1⟩
  refine Context.Entity.forall_mem_fields (by decide) ?_ ?_ ?_ ?_ ?_
  · intro p hp
    obtain ⟨a, ha, hname⟩ := List.mem_map.mp (name_of_mem_declaredProperties hp)
    have hascii := List.all_eq_true.mp (hattributes a ha)
    rw [Property.toField, ← hname]
    exact (Naming.isFieldIdentifier_fieldName hascii).1
  · intro o ho
    change o ∈ ((ofDiagram d).relations c).oneToOne at ho
    obtain ⟨r, -, source, target, hends, -, -, -, rfl⟩ := mem_relations_oneToOne.mp ho
    simp only [OneToOne.toField, OneToOne.toEntity]
    exact (hentity hends).2
  · intro o ho
    change o ∈ ((ofDiagram d).relations c).oneToMany at ho
    obtain ⟨r, -, source, target, hends, -, -, -, rfl⟩ := mem_relations_oneToMany.mp ho
    simp only [OneToMany.toField, OneToMany.between]
    exact (hentity hends).2.plural
  · intro m hm
    change m ∈ ((ofDiagram d).relations c).manyToOne at hm
    obtain ⟨r, -, source, target, hends, -, -, -, rfl⟩ := mem_relations_manyToOne.mp hm
    simp only [ManyToOne.toField, ManyToOne.toEntity]
    exact (hentity hends).1
  · intro o ho
    change o ∈ ((ofDiagram d).relations c).manyToMany at ho
    obtain ⟨r, -, source, target, hends, -, -, -, rfl⟩ := mem_relations_manyToMany.mp ho
    simp only [ManyToMany.toField, ManyToMany.between]
    exact (hentity hends).2.plural

end Index

/-! ### Accessors -/

/-- **Accessors keep fields apart and carry the names of types.** The fields of two names in ASCII
have a setter or a getter in common only if they are the same field. They carry the type of the
name exactly if it starts with a letter and its words do not make a reserved word. So in a diagram
in ASCII, two fields of an entity have an accessor in common only if they have the same name. -/
theorem accessors_apart :
    (∀ r t : String, r.toList.all Unicode.isAscii = true → t.toList.all Unicode.isAscii = true →
      (setter (fieldName r) = setter (fieldName t) ↔ fieldName r = fieldName t) ∧
        (getter (fieldName r) = getter (fieldName t) ↔ fieldName r = fieldName t)) ∧
    (∀ r : String, r.toList.all Unicode.isAscii = true →
      (setter (fieldName r) = "set" ++ entityName r ↔
        StartsWithLetter r ∧ camelName r ∉ reservedWords) ∧
      (getter (fieldName r) = "get" ++ entityName r ↔
        StartsWithLetter r ∧ camelName r ∉ reservedWords)) ∧
    ∀ (d : Diagram) (c : ClassBox) (basePackage : String), d.HasAsciiNames →
      (∀ a ∈ c.attributes, a.name.toList.all Unicode.isAscii = true) →
      let fields := ((Index.ofDiagram d).entityLayer basePackage c).fields
      ∀ f ∈ fields, ∀ g ∈ fields,
        (setter f.name = setter g.name ↔ f.name = g.name) ∧
          (getter f.name = getter g.name ↔ f.name = g.name) ∧ setter f.name ≠ getter g.name := by
  refine ⟨fun r t hr ht => ?_, fun r hr => ?_, ?_⟩
  · have hr := Naming.isFieldIdentifier_fieldName (List.all_eq_true.mp hr)
    have ht := Naming.isFieldIdentifier_fieldName (List.all_eq_true.mp ht)
    exact ⟨Naming.setter_inj hr.1 ht.1, Naming.getter_inj hr.1 ht.1⟩
  · rw [setter, getter, String.append_right_inj, String.append_right_inj]
    have hcapital := Naming.capitalize_fieldName_eq_entityName_iff (List.all_eq_true.mp hr)
    exact ⟨hcapital, hcapital⟩
  · intro d c basePackage hd hc fields f hf g hg
    have hf := Index.isIdentifier_of_mem_fields hd hc basePackage f hf
    have hg := Index.isIdentifier_of_mem_fields hd hc basePackage g hg
    exact ⟨Naming.setter_inj hf hg, Naming.getter_inj hf hg, Naming.setter_ne_getter _ _⟩

theorem accessors_apart_farm :
    (setter (fieldName "order id") = setter (fieldName "order no") ↔
      fieldName "order id" = fieldName "order no") ∧
    (StartsWithLetter "_order 2" ∧ camelName "_order 2" ∉ reservedWords ∧
      setter (fieldName "_order 2") = "set" ++ entityName "_order 2") ∧
    farmDiagram.HasAsciiNames ∧
      let farm := (ClassBox.named "f" "farm").addAttribute "potato field" "date"
      let fields := ((Index.ofDiagram farmDiagram).entityLayer "com.example" farm).fields
      ∃ f ∈ fields, ∃ g ∈ fields, f.type = "LocalDate" ∧ g.type = "List<PotatoField>" ∧
        setter f.name ≠ setter g.name := by
  have hnames : farmDiagram.HasAsciiNames := by decide +kernel
  refine ⟨(accessors_apart.1 "order id" "order no" (by decide) (by decide)).1, ?_, hnames, ?_⟩
  · have hletter : StartsWithLetter "_order 2" := rfl
    have hname : camelName "_order 2" ∉ reservedWords := by decide +kernel
    exact ⟨hletter, hname, (accessors_apart.2.1 "_order 2" (by decide)).1.mpr ⟨hletter, hname⟩⟩
  · intro farm fields
    have hdate : (⟨[], "LocalDate", "potatoField", none⟩ : SourceField) ∈ fields := by
      decide +kernel
    have hlist : (ManyToMany.between "Farm" "PotatoField").toField ∈ fields := by decide +kernel
    have hsame :=
      (accessors_apart.2.2 farmDiagram farm "com.example" hnames (by decide) _ hdate _ hlist).1
    exact ⟨_, hdate, _, hlist, rfl, by decide +kernel, hsame.not.mpr (by decide +kernel)⟩

end Scaffold

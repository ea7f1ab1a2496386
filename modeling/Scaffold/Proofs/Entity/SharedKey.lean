import Scaffold.Diagram.Basic
import Scaffold.Entity.Layers
import Scaffold.Proofs.Association.Inverse
import Scaffold.Proofs.Entity.Hierarchy
import Scaffold.Source.Entity
import Scaffold.Source.Layers

/-!
# One key for a hierarchy

The instances of a hierarchy are stored together and found by one key. The entity at the top
declares it; the entities below declare none; and the repository, the service and the controller of
every class of the hierarchy are written for it. The four sources are rendered apart from each
other, each from a context of its own, and where no attribute can be the key they fall back to the
same one in different places: the entity declares a key that no attribute gives, and the layers use
its type and its setter.

## Main definitions

* `SourceField.isKey`: whether a field is marked as the key.
* `HasLine`, `Layers.UseKey`: the lines in which the sources of a class use a key.

## Main results

* `Index.filter_isKey_fields_of_top`: the top declares one key, the one that its layers use.
* `Index.filter_isKey_fields_of_extends`: a class below declares none.
* `hierarchy_sharesKey`: all classes of a hierarchy use the key that its top declares.
-/

namespace Scaffold

open Relation (ReflTransGen)

/-! ### Fields that are keys -/

/-- Whether a field is marked as the key of its entity. -/
def SourceField.isKey (f : SourceField) : Bool :=
  decide (keyMark ∈ f.marks)

/-- A text that is not longer in the same way does not start with another one. -/
theorem ne_append_of_not_prefix {start rest s : String}
    (h : ¬ start.toList <+: s.toList) : s ≠ start ++ rest := by
  rintro rfl
  exact h (by rw [String.toList_append]; exact List.prefix_append ..)

theorem keyMark_ne_joinColumnMark (field : String) : keyMark ≠ joinColumnMark field := by
  unfold joinColumnMark
  rw [String.append_assoc]
  exact ne_append_of_not_prefix (by decide)

theorem keyMark_ne_joinTableMark (r : ManyToMany) : keyMark ≠ r.joinTableMark := by
  unfold ManyToMany.joinTableMark
  simp only [String.append_assoc]
  exact ne_append_of_not_prefix (by decide)

@[simp] theorem Property.isKey_toField (p : Property) : p.toField.isKey = p.isKey := by
  have htransient : keyMark ≠ transientMark := by decide
  have hgenerated : keyMark ≠ generatedMark := by decide
  unfold SourceField.isKey Property.toField
  cases hkey : p.isKey <;> by_cases htype : p.type = objectType <;>
    by_cases hgen : p.generated = some true <;> simp [htype, hgen, htransient, hgenerated]

@[simp] theorem OneToOne.isKey_toField (r : OneToOne) : r.toField.isKey = false := by
  have hmark : keyMark ≠ "@OneToOne" := by decide
  simp [SourceField.isKey, OneToOne.toField, hmark, keyMark_ne_joinColumnMark]

@[simp] theorem ManyToOne.isKey_toField (r : ManyToOne) : r.toField.isKey = false := by
  have hmark : keyMark ≠ "@ManyToOne" := by decide
  simp [SourceField.isKey, ManyToOne.toField, hmark, keyMark_ne_joinColumnMark]

@[simp] theorem OneToMany.isKey_toField (r : OneToMany) : r.toField.isKey = false := by
  have hmark : keyMark ≠ "@OneToMany(mappedBy = \"" ++ r.mappedBy ++
      "\", cascade = CascadeType.ALL)" := by
    rw [String.append_assoc]
    exact ne_append_of_not_prefix (by decide)
  have hignore : keyMark ≠ ignoreMark := by decide
  simp [SourceField.isKey, OneToMany.toField, hmark, hignore]

@[simp] theorem ManyToMany.isKey_toField (r : ManyToMany) : r.toField.isKey = false := by
  have hmark : keyMark ≠ "@ManyToMany" := by decide
  have hignore : keyMark ≠ ignoreMark := by decide
  simp [SourceField.isKey, ManyToMany.toField, hmark, hignore, keyMark_ne_joinTableMark]

@[simp] theorem syntheticKey_isKey : syntheticKey.isKey = true := by
  decide

namespace Context.Entity

theorem filter_isKey_map_toField (ps : List Property) :
    (ps.map Property.toField).filter SourceField.isKey =
      (ps.filter Property.isKey).map Property.toField := by
  rw [List.filter_map]
  exact congrArg _ (List.filter_congr fun p _ => p.isKey_toField)

/-- Relations are never keys. -/
theorem filter_isKey_fields (c : Context.Entity) :
    c.fields.filter SourceField.isKey = c.propertyFields.filter SourceField.isKey := by
  simp [fields, List.filter_map, Function.comp_def]

end Context.Entity

/-! ### Choosing a key -/

/-- The key is the first property that has a form as key. -/
theorem chooseKeyFrom_eq_some {index : Nat} {ps : List Property} {key : KeyChoice}
    (h : chooseKeyFrom index ps = some key) :
    ∃ before p after, ps = before ++ p :: after ∧ key.index = index + before.length ∧
      key.name = p.name ∧ keyForm? p.type = some (key.type, key.generated) ∧
      ∀ q ∈ before, keyForm? q.type = none := by
  induction ps generalizing index with
  | nil => simp [chooseKeyFrom] at h
  | cons p rest ih =>
    cases hform : keyForm? p.type with
    | some form =>
      obtain ⟨type, generated⟩ := form
      simp only [chooseKeyFrom, hform, Option.some.injEq] at h
      subst h
      exact ⟨[], p, rest, rfl, rfl, rfl, hform, List.forall_mem_nil _⟩
    | none =>
      simp only [chooseKeyFrom, hform] at h
      obtain ⟨before, q, after, rfl, hindex, hname, hq, hbefore⟩ := ih h
      refine ⟨p :: before, q, after, rfl, ?_, hname, hq, List.forall_mem_cons.mpr ⟨hform, hbefore⟩⟩
      rw [hindex, List.length_cons]
      omega

/-- The property that a chosen key becomes. -/
def KeyChoice.toProperty (key : KeyChoice) : Property :=
  ⟨key.name, key.type, true, some key.generated⟩

/-- The property at the position of a key takes the form of the key, and the others stay. -/
theorem KeyChoice.mark_append_cons {before after : List Property} {p : Property} {key : KeyChoice}
    (hindex : key.index = before.length) (hname : key.name = p.name) :
    key.mark (before ++ p :: after) = before ++ key.toProperty :: after := by
  rw [KeyChoice.mark, hindex, List.modify_eq_take_cons_drop (by simp)]
  simp [KeyChoice.toProperty, hname]

/-- Where no property was marked before, a chosen key is the only one that is marked. -/
theorem filter_isKey_mark {ps : List Property} {key : KeyChoice}
    (hunmarked : ∀ p ∈ ps, p.isKey = false) (h : chooseKey ps = some key) :
    (key.mark ps).filter Property.isKey = [key.toProperty] := by
  obtain ⟨before, p, after, rfl, hindex, hname, -⟩ := chooseKeyFrom_eq_some h
  rw [Nat.zero_add] at hindex
  have hrest : ∀ q ∈ before ++ after, q.isKey = false := fun q hq =>
    hunmarked q (by simp only [List.mem_append, List.mem_cons] at hq ⊢; tauto)
  have hbefore : before.filter Property.isKey = [] :=
    List.filter_eq_nil_iff.mpr fun q hq => by simp [hrest q (List.mem_append_left _ hq)]
  have hafter : after.filter Property.isKey = [] :=
    List.filter_eq_nil_iff.mpr fun q hq => by simp [hrest q (List.mem_append_right _ hq)]
  rw [KeyChoice.mark_append_cons hindex hname]
  simp [List.filter_append, hbefore, hafter, KeyChoice.toProperty]

theorem chooseKeyFrom_eq_none_iff {index : Nat} {ps : List Property} :
    chooseKeyFrom index ps = none ↔ ∀ p ∈ ps, keyForm? p.type = none := by
  induction ps generalizing index with
  | nil => simp [chooseKeyFrom]
  | cons p rest ih => cases hform : keyForm? p.type <;> simp [chooseKeyFrom, hform, ih]

namespace Index

variable {x : Index} {c : ClassBox}

theorem isKey_of_mem_properties {p : Property} (hp : p ∈ x.properties c) : p.isKey = false := by
  obtain ⟨a, -, rfl⟩ := List.mem_map.mp hp
  rfl

/-! ### The key of a hierarchy -/

/-- The field that declares the key at the top of a hierarchy. -/
def keyField (x : Index) (top : ClassBox) : SourceField :=
  match x.ownKey top with
  | some key => key.toProperty.toField
  | none => syntheticKey

theorem type_keyField (x : Index) (top : ClassBox) :
    (x.keyField top).type = keyTypeOrDefault ((x.ownKey top).map KeyChoice.type) := by
  unfold keyField
  cases x.ownKey top <;> rfl

theorem setter_name_keyField (x : Index) (top : ClassBox) :
    Naming.setter (x.keyField top).name =
      keySetterOrDefault ((x.ownKey top).map fun key => Naming.setter key.name) := by
  unfold keyField
  cases x.ownKey top with
  | some key => rfl
  | none =>
    have hid : Naming.setter "id" = "setId" := by decide +kernel
    exact hid

theorem keyField_of_not_eligible {top : ClassBox}
    (h : ∀ p ∈ x.properties top, keyForm? p.type = none) : x.keyField top = syntheticKey := by
  rw [keyField, ownKey, chooseKey, chooseKeyFrom_eq_none_iff.mpr h]

theorem mem_fields_of_filter_isKey {e : Context.Entity} {f : SourceField}
    (h : e.fields.filter SourceField.isKey = [f]) : f ∈ e.fields :=
  List.mem_of_mem_filter (h ▸ List.mem_singleton_self f)

end Index

namespace Diagram.Unambiguous

variable {d : Diagram} {c parent top : ClassBox}

/-- The entity at the top of a hierarchy declares exactly one key. -/
theorem filter_isKey_fields_of_top (h : d.Unambiguous) (basePackage : String)
    (htop : top ∈ d.classes) (hnothing : ∀ parent, ¬ d.Extends top parent) :
    ((Index.ofDiagram d).entityLayer basePackage top).fields.filter SourceField.isKey =
      [(Index.ofDiagram d).keyField top] := by
  have hparent := (h.parent?_eq_none_iff htop).mpr hnothing
  have hentity : (Index.ofDiagram d).parentEntity top = none := by
    simpa [hparent] using h.isSome_parentEntity htop
  rw [Context.Entity.filter_isKey_fields, Index.keyField]
  cases hkey : (Index.ofDiagram d).ownKey top with
  | some key =>
    simp [Context.Entity.propertyFields, Context.Entity.needsSyntheticKey, Index.entityLayer,
      Index.key, Index.declaredProperties, Index.keyedProperties, hparent, hkey,
      Context.Entity.filter_isKey_map_toField,
      filter_isKey_mark (fun _ => Index.isKey_of_mem_properties) hkey]
  | none =>
    have hothers : (((Index.ofDiagram d).properties top).filter fun p => p.name != "id").filter
        Property.isKey = [] :=
      List.filter_eq_nil_iff.mpr fun p hp => by
        simp [Index.isKey_of_mem_properties (List.mem_of_mem_filter hp)]
    simp only [Context.Entity.propertyFields, Context.Entity.needsSyntheticKey, Index.entityLayer,
      Index.key, Index.declaredProperties, Index.keyedProperties, hparent, hkey, hentity,
      Index.relations_parentEntity, Option.map_none, Option.isNone_none, Bool.and_self, if_true,
      List.filter_cons, syntheticKey_isKey, Context.Entity.filter_isKey_map_toField, hothers,
      List.map_nil]

/-- An entity below the top of its hierarchy declares no key. -/
theorem filter_isKey_fields_of_extends (h : d.Unambiguous) (basePackage : String)
    (hext : d.Extends c parent) :
    ((Index.ofDiagram d).entityLayer basePackage c).fields.filter SourceField.isKey = [] := by
  have hparent := (h.parent?_eq_some_iff hext.1).mpr hext
  have hentity : (Index.ofDiagram d).parentEntity c = some parent.entity :=
    (h.distinctIds.parentEntity_eq_some_iff hext.1).mpr ⟨parent, hext, rfl⟩
  have hdeclared : ((Index.ofDiagram d).declaredProperties c).filter Property.isKey = [] := by
    refine List.filter_eq_nil_iff.mpr fun p hp => ?_
    simp only [Index.declaredProperties, hparent, withoutInherited] at hp
    simp [Index.isKey_of_mem_properties (List.mem_of_mem_filter hp)]
  rw [Context.Entity.filter_isKey_fields]
  simp [Context.Entity.propertyFields, Context.Entity.needsSyntheticKey, Index.entityLayer,
    Index.relations_parentEntity, hentity, Context.Entity.filter_isKey_map_toField, hdeclared]

/-- The key by which the instances of a class are found is the one that the attributes at the top of
its hierarchy give, if they give one. -/
theorem key_eq_of_isTop (h : d.Unambiguous) (hacyclic : d.Acyclic) (hc : c ∈ d.classes)
    (htop : d.IsTop c top) :
    ∃ inherited, (Index.ofDiagram d).key c =
      ((Index.ofDiagram d).ownKey top).map fun key => key.toPrimaryKey inherited := by
  cases hparent : (Index.ofDiagram d).parent? c with
  | none =>
    have hself : d.IsTop c c := ⟨.refl, (h.parent?_eq_none_iff hc).mp hparent⟩
    rw [h.isTop_unique hself htop]
    exact ⟨false, by simp only [Index.key, hparent]⟩
  | some p =>
    rw [← h.isTop_unique htop (h.root_isTop hacyclic hc)]
    exact ⟨true, by simp only [Index.key, hparent]⟩

end Diagram.Unambiguous

/-! ### The sources of a class -/

/-- A text of whole lines, of which `line` is one. -/
def HasLine (text line : String) : Prop :=
  ∃ before after : List String, text = textOfLines (before ++ line :: after)

theorem hasLine_textOfLines {lines : List String} {line : String} (h : line ∈ lines) :
    HasLine (textOfLines lines) line := by
  obtain ⟨before, after, rfl⟩ := List.append_of_mem h
  exact ⟨before, after, rfl⟩

/-- The lines in which the repository, the service and the controller of a class use a key of a
type, and in which the service calls its setter. -/
structure Layers.UseKey (l : Layers) (type setter : String) : Prop where
  repository : HasLine l.repository.source
    ("public interface " ++ l.entity.entityName ++ "Repository extends JpaRepository<" ++
      l.entity.entityName ++ ", " ++ type ++ "> \x7b")
  serviceFind : HasLine l.service.source
    ("    public Optional<" ++ l.entity.entityName ++ "> findById(" ++ type ++ " id) \x7b")
  serviceUpdate : HasLine l.service.source
    ("    public Optional<" ++ l.entity.entityName ++ "> update(" ++ type ++ " id, " ++
      l.entity.entityName ++ " entity) \x7b")
  serviceSet : HasLine l.service.source ("        entity." ++ setter ++ "(id);")
  serviceDelete : HasLine l.service.source
    ("    public boolean deleteById(" ++ type ++ " id) \x7b")
  controllerFind : HasLine l.controller.source
    ("    public ResponseEntity<" ++ l.entity.entityName ++ "> findById(@PathVariable " ++ type ++
      " id) \x7b")
  controllerUpdate : HasLine l.controller.source
    ("    public ResponseEntity<" ++ l.entity.entityName ++ "> update(@PathVariable " ++ type ++
      " id, @RequestBody " ++ l.entity.entityName ++ " entity) \x7b")
  controllerDelete : HasLine l.controller.source
    ("    public ResponseEntity<Void> delete(@PathVariable " ++ type ++ " id) \x7b")

theorem Index.layers_useKey (x : Index) (basePackage : String) (c : ClassBox) :
    (x.layers basePackage c).UseKey (keyTypeOrDefault ((x.key c).map PrimaryKey.type))
      (keySetterOrDefault ((x.key c).map PrimaryKey.setter)) where
  repository := hasLine_textOfLines (by simp [layers, entityLayer, Context.Entity.keyType])
  serviceFind := hasLine_textOfLines (by simp [layers, entityLayer, Context.Entity.keyType])
  serviceUpdate := hasLine_textOfLines (by simp [layers, entityLayer, Context.Entity.keyType])
  serviceSet := hasLine_textOfLines (by simp [layers, entityLayer, Context.Entity.keyType])
  serviceDelete := hasLine_textOfLines (by simp [layers, entityLayer, Context.Entity.keyType])
  controllerFind := hasLine_textOfLines (by simp [layers, entityLayer, Context.Entity.keyType])
  controllerUpdate := hasLine_textOfLines (by simp [layers, entityLayer, Context.Entity.keyType])
  controllerDelete := hasLine_textOfLines (by simp [layers, entityLayer, Context.Entity.keyType])

/-- The top of a hierarchy, the key that it declares, and the lines that use it. -/
theorem Diagram.Unambiguous.exists_sharedKey {d : Diagram} {c : ClassBox} (h : d.Unambiguous)
    (hacyclic : d.Acyclic) (hc : c ∈ d.classes) (basePackage : String) :
    ∃ top, d.IsTop c top ∧ ∃ f,
      ((Index.ofDiagram d).layers basePackage top).entity.fields.filter SourceField.isKey = [f] ∧
      ((Index.ofDiagram d).layers basePackage c).UseKey f.type (Naming.setter f.name) ∧
      ((∀ p ∈ (Index.ofDiagram d).properties top, keyForm? p.type = none) → f = syntheticKey) := by
  have htop := h.root_isTop hacyclic hc
  have hmem := mem_of_reflTransGen hc htop.chain
  obtain ⟨inherited, hkey⟩ := h.key_eq_of_isTop hacyclic hc htop
  refine ⟨_, htop, _, h.filter_isKey_fields_of_top basePackage hmem htop.extends_nothing, ?_,
    Index.keyField_of_not_eligible⟩
  have huse := (Index.ofDiagram d).layers_useKey basePackage c
  rw [hkey, Option.map_map, Option.map_map] at huse
  rw [Index.type_keyField, Index.setter_name_keyField]
  exact huse

/-- A field of an entity has a setter in its source. -/
theorem Context.Entity.hasLine_setter {e : Context.Entity} {f : SourceField} (hf : f ∈ e.fields) :
    HasLine e.source
      ("    public void " ++ Naming.setter f.name ++ "(" ++ f.type ++ " " ++ f.name ++
        ") \x7b") := by
  refine hasLine_textOfLines ?_
  simp only [List.mem_append, List.mem_flatMap]
  exact Or.inl (Or.inl (Or.inr ⟨f, hf, by simp [SourceField.accessors]⟩))

/-- **A hierarchy has one key.** Above every class of the normal form of a diagram there is exactly
one top. Its entity declares one key, no other entity on the way there declares any, and the
repository, the service and the controller of the class are written for the type and the setter of
that key. Where no attribute of the top can be a key, it is the one that the entity makes up. -/
theorem hierarchy_sharesKey (s : Diagram) (h : s.normalize.Unambiguous)
    (hacyclic : s.normalize.Acyclic) (basePackage : String) {c : ClassBox}
    (hc : c ∈ s.normalize.classes) :
    let layers := (Index.ofDiagram s.normalize).layers basePackage
    ∃ top, (∀ b, s.normalize.IsTop c b ↔ b = top) ∧
      ∃ key, (layers top).entity.fields.filter SourceField.isKey = [key] ∧
        (∀ b, ReflTransGen s.normalize.Extends c b → b ≠ top →
          (layers b).entity.fields.filter SourceField.isKey = []) ∧
        (layers c).UseKey key.type (Naming.setter key.name) ∧
        HasLine (layers top).entity.source
          ("    public void " ++ Naming.setter key.name ++ "(" ++ key.type ++ " " ++ key.name ++
            ") \x7b") ∧
        ((∀ p ∈ (Index.ofDiagram s.normalize).properties top, keyForm? p.type = none) →
          key = syntheticKey) := by
  intro layers
  obtain ⟨top, htop, key, hkey, huse, hsynthetic⟩ := h.exists_sharedKey hacyclic hc basePackage
  have hunique : ∀ b, s.normalize.IsTop c b ↔ b = top :=
    fun b => ⟨h.isTop_unique htop, by rintro rfl; exact htop⟩
  refine ⟨top, hunique, key, hkey, fun b hb hne => ?_, huse,
    Context.Entity.hasLine_setter (Index.mem_fields_of_filter_isKey hkey), hsynthetic⟩
  -- a class on the way that is not the top extends something, since there is only one top
  by_cases hnothing : ∀ parent, ¬ s.normalize.Extends b parent
  · exact absurd ((hunique b).mp ⟨hb, hnothing⟩) hne
  · obtain ⟨parent, hext⟩ := not_forall_not.mp hnothing
    exact h.filter_isKey_fields_of_extends basePackage hext

/-- Three classes in a row, of which the topmost has no attribute that can be a key, and where the
last generalization of the lowest class outdoes an earlier one. -/
def vehiclesDiagram : Diagram where
  classes :=
    [(ClassBox.named " car " "Car").addAttribute "ID" "int",
     (ClassBox.named "v" " vehicle").addAttribute "plate" "string",
     (ClassBox.named "t" "thing").addAttribute "in use" "bool"]
  relationships :=
    [.between .generalization "car" "t" [], .between .generalization "car" "v" [],
     .between .generalization "car" "gone" [], .between .generalization "v " "t" []]

theorem hierarchy_sharesKey_vehicles :
    vehiclesDiagram.normalize.Unambiguous ∧ vehiclesDiagram.normalize.Acyclic ∧
      ∃ c ∈ vehiclesDiagram.normalize.classes, ∃ top ∈ vehiclesDiagram.normalize.classes,
        c.id = "car" ∧ top.id = "t" ∧
        ((Index.ofDiagram vehiclesDiagram.normalize).layers "com.example"
          top).entity.fields.filter SourceField.isKey = [syntheticKey] ∧
        ((Index.ofDiagram vehiclesDiagram.normalize).layers "com.example" c).UseKey "Long"
          "setId" := by
  have h : vehiclesDiagram.normalize.Unambiguous := ⟨by decide +kernel, by decide +kernel⟩
  have hacyclic : vehiclesDiagram.normalize.Acyclic :=
    h.acyclic_of_rank (fun c => ["t", "v", "car"].idxOf c.id) (by decide +kernel)
  let car := (ClassBox.named "car" "Car").addAttribute "ID" "int"
  let thing := (ClassBox.named "t" "thing").addAttribute "in use" "bool"
  have hcar : car ∈ vehiclesDiagram.normalize.classes := by decide +kernel
  have hthing : thing ∈ vehiclesDiagram.normalize.classes := by decide +kernel
  have hroot : (Index.ofDiagram vehiclesDiagram.normalize).root car = thing := by decide +kernel
  obtain ⟨top, htop, key, hkey, -, huse, -, hsynthetic⟩ :=
    hierarchy_sharesKey vehiclesDiagram h hacyclic "com.example" hcar
  obtain rfl : thing = top := (htop thing).mp (hroot ▸ h.root_isTop hacyclic hcar)
  obtain rfl : key = syntheticKey := hsynthetic (by decide +kernel)
  have hsetter : Naming.setter syntheticKey.name = "setId" := by decide +kernel
  rw [hsetter] at huse
  exact ⟨h, hacyclic, car, hcar, thing, hthing, rfl, rfl, hkey, huse⟩

end Scaffold

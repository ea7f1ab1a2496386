import Mathlib.Data.List.Forall2
import Scaffold.Project.Generation
import Scaffold.Proofs.Association.Inverse
import Scaffold.Proofs.Entity.Hierarchy

/-!
# What the layers of a class depend on

Four contexts are made for a class, and a whole index is at hand for them. It uses the other classes
of a diagram in four ways: it looks one up by its entity name, it takes the relations of a class
from the relationships, it walks up a hierarchy, and it compares the members of a class with those
of its parent and of the top of its hierarchy. So whether a class has the same contexts can be asked
of any two diagrams in which the classes correspond to each other. The first three ways only depend
on identifiers and entity names: corresponding classes are found on both sides, they have the same
relations, and walks that start at corresponding classes end at corresponding classes. What remains
are the members of three classes (`Index.Matches.layers_eq`).

Diagrams correspond if their classes do one by one, and if every relationship has the same ends, the
same kind and the same multiplicities as the one in its place. Nothing has to be unambiguous for
that: where several classes share an identifier, the first of them is found on both sides.

Where every class corresponds to itself, two indices agree: they find the same entities and the same
relations among as many classes. Then all contexts are the same and with them all steps, however the
two came about.

## Main definitions

* `Index.Matches`: two indices find corresponding classes, and the same relations.
* `Relationship.Like`, `Diagram.Corresponds`: diagrams that correspond one by one.
* `Index.Agree`: two indices find the same entities and the same relations.

## Main results

* `Index.Matches.root_rel`: corresponding classes have corresponding tops.
* `Index.Matches.layers_eq`: when corresponding classes have the same contexts.
* `Diagram.Corresponds.index_matches`: the indices of corresponding diagrams.
* `Index.Agree.layers_eq`, `Index.Agree.classSteps_eq`: indices that agree give the same contexts
  and steps.
* `Index.relations_congr`: when two indices find the same relations.
-/

namespace Scaffold

open List (Forall₂)

/-- Two options correspond if neither has a value, or if both do and the values correspond. -/
theorem option_rel_cases {α β : Type} {R : α → β → Prop} {o : Option α} {o' : Option β}
    (h : Option.Rel R o o') :
    o = none ∧ o' = none ∨ ∃ a b, o = some a ∧ o' = some b ∧ R a b := by
  cases h with
  | none => exact .inl ⟨rfl, rfl⟩
  | some hab => exact .inr ⟨_, _, rfl, rfl, hab⟩

theorem option_rel_imp {α β : Type} {R S : α → β → Prop} (hRS : ∀ a b, R a b → S a b)
    {o : Option α} {o' : Option β} (h : Option.Rel R o o') : Option.Rel S o o' := by
  cases h with
  | none => exact .none
  | some hab => exact .some (hRS _ _ hab)

namespace Index

/-- Two indices find corresponding classes by entity name, among as many. Corresponding classes have
the same identifier, the same entity name and the same relations. -/
structure Matches (R : ClassBox → ClassBox → Prop) (x x' : Index) : Prop where
  entities : ∀ entity, Option.Rel R (x.findEntity? entity) (x'.findEntity? entity)
  ids : ∀ {c c'}, R c c' → c.id = c'.id
  names : ∀ {c c'}, R c c' → c.entity = c'.entity
  relations : ∀ {c c'}, R c c' → x.relations c = x'.relations c'
  size : x.diagram.classes.length = x'.diagram.classes.length

namespace Matches

variable {R : ClassBox → ClassBox → Prop} {x x' : Index} {c c' : ClassBox}

theorem isEntity_eq (h : x.Matches R x') : x.isEntity = x'.isEntity := by
  funext entity
  rw [isEntity, isEntity]
  rcases option_rel_cases (h.entities entity) with ⟨hx, hx'⟩ | ⟨b, b', hx, hx', -⟩ <;>
    simp [hx, hx']

theorem parentEntity_eq (h : x.Matches R x') (hc : R c c') :
    x.parentEntity c = x'.parentEntity c' := by
  rw [← relations_parentEntity, h.relations hc, relations_parentEntity]

/-! ### Walking up -/

theorem parent?_rel (h : x.Matches R x') (hc : R c c') :
    Option.Rel R (x.parent? c) (x'.parent? c') := by
  rw [parent?, parent?, h.parentEntity_eq hc]
  cases x'.parentEntity c' with
  | none => exact .none
  | some entity => exact h.entities entity

/-- Walks that start at corresponding classes end at corresponding classes. They end after the same
number of steps, because the parents on both sides have the same identifiers. -/
theorem climb_rel (h : x.Matches R x') (steps : Nat) (passed : List String) (hc : R c c') :
    R (x.climb steps passed c) (x'.climb steps passed c') := by
  induction steps generalizing passed c c' with
  | zero => exact hc
  | succ steps ih =>
    rw [climb, climb]
    rcases option_rel_cases (h.parent?_rel hc) with ⟨hx, hx'⟩ | ⟨p, p', hx, hx', hparent⟩
    · rw [hx, hx']
      exact hc
    · rw [hx, hx']
      dsimp only
      rw [h.ids hparent]
      split_ifs
      · exact hc
      · exact ih _ hparent

theorem root_rel (h : x.Matches R x') (hc : R c c') : R (x.root c) (x'.root c') := by
  rw [root, root, h.size, h.ids hc]
  exact h.climb_rel _ _ hc

/-! ### Layers -/

/-- Corresponding classes have the same contexts, if they have the same members, their parents have
fields of the same names, and the tops of their hierarchies have the same key. -/
theorem layers_eq (h : x.Matches R x') (hc : R c c')
    (hproperties : x.properties c = x'.properties c')
    (hstubs : c.methods.map (Method.toStub x.isEntity) = c'.methods.map (Method.toStub x'.isEntity))
    (hparent : Option.Rel (fun p p' => (x.properties p).map Property.name =
      (x'.properties p').map Property.name) (x.parent? c) (x'.parent? c'))
    (hroot : x.ownKey (x.root c) = x'.ownKey (x'.root c')) (basePackage : String) :
    x.layers basePackage c = x'.layers basePackage c' := by
  have hownKey : x.ownKey c = x'.ownKey c' := by rw [ownKey, ownKey, hproperties]
  have hdeclared : x.declaredProperties c = x'.declaredProperties c' := by
    rw [declaredProperties, declaredProperties, keyedProperties, keyedProperties, hownKey,
      hproperties]
    rcases option_rel_cases hparent with ⟨hx, hx'⟩ | ⟨p, p', hx, hx', hfields⟩ <;> rw [hx, hx']
    dsimp only
    rw [hfields]
  have hkey : x.key c = x'.key c' := by
    rw [key, key, hownKey, hroot]
    rcases option_rel_cases hparent with ⟨hx, hx'⟩ | ⟨p, p', hx, hx', -⟩ <;> rw [hx, hx']
  have hentity : x.entityLayer basePackage c = x'.entityLayer basePackage c' := by
    simp only [entityLayer, h.relations hc, h.names hc, hdeclared, hstubs, hkey]
  rw [layers, layers, hentity]

end Matches

end Index

/-! ### Diagrams -/

/-- Two relationships are of the same kind, between ends of the same identifiers, and many at the
same ends. -/
structure Relationship.Like (r r' : Relationship) : Prop where
  kind : r.kind = r'.kind
  source : r.sourceId = r'.sourceId
  target : r.targetId = r'.targetId
  multiplicity : Multiplicity.ofLabels r.labels = Multiplicity.ofLabels r'.labels

theorem Relationship.like_refl (r : Relationship) : r.Like r :=
  ⟨rfl, rfl, rfl, rfl⟩

/-- In a list whose elements correspond to those of another and have the same keys, what is found
corresponds. -/
theorem find?_key_rel {α β : Type} {R : α → β → Prop} {key : α → String} {key' : β → String}
    {l : List α} {l' : List β} (h : Forall₂ R l l') (hkey : ∀ a b, R a b → key a = key' b)
    (k : String) :
    Option.Rel R (l.find? fun a => key a == k) (l'.find? fun b => key' b == k) := by
  induction h with
  | nil => exact .none
  | cons hab _ ih =>
    rw [List.find?_cons, List.find?_cons, hkey _ _ hab]
    split
    · exact .some hab
    · exact ih

namespace Diagram

/-- The classes and relationships of two diagrams correspond one by one, where corresponding classes
have the same identifier and the same entity name. -/
structure Corresponds (R : ClassBox → ClassBox → Prop) (d d' : Diagram) : Prop where
  classes : Forall₂ R d.classes d'.classes
  relationships : Forall₂ Relationship.Like d.relationships d'.relationships
  ids : ∀ {c c'}, R c c' → c.id = c'.id
  names : ∀ {c c'}, R c c' → c.entity = c'.entity

namespace Corresponds

variable {R : ClassBox → ClassBox → Prop} {d d' : Diagram} {c c' : ClassBox}
  {r r' : Relationship}

theorem findId?_rel (h : d.Corresponds R d') (id : String) :
    Option.Rel R ((Index.ofDiagram d).findId? id) ((Index.ofDiagram d').findId? id) := by
  rw [Index.findId?_ofDiagram, Index.findId?_ofDiagram]
  exact find?_key_rel h.classes (fun _ _ => h.ids) id

theorem findEntity?_rel (h : d.Corresponds R d') (entity : String) :
    Option.Rel R ((Index.ofDiagram d).findEntity? entity)
      ((Index.ofDiagram d').findEntity? entity) := by
  rw [Index.findEntity?_ofDiagram, Index.findEntity?_ofDiagram]
  exact find?_key_rel h.classes (fun _ _ => h.names) entity

/-- The ends of like relationships correspond. -/
theorem ends_rel (h : d.Corresponds R d') (hr : r.Like r') :
    Option.Rel (fun pair pair' => R pair.1 pair'.1 ∧ R pair.2 pair'.2)
      ((Index.ofDiagram d).ends r) ((Index.ofDiagram d').ends r') := by
  rw [Index.ends, Index.ends, ← hr.source, ← hr.target]
  rcases option_rel_cases (h.findId?_rel r.sourceId) with ⟨hs, hs'⟩ | ⟨s, s', hs, hs', hsource⟩
  · rw [hs, hs']
    exact .none
  · rcases option_rel_cases (h.findId?_rel r.targetId) with ⟨ht, ht'⟩ | ⟨t, t', ht, ht', htarget⟩
    · rw [hs, hs', ht, ht']
      exact .none
    · rw [hs, hs', ht, ht']
      exact .some ⟨hsource, htarget⟩

theorem parentBy_rel (h : d.Corresponds R d') (hid : c.id = c'.id) (hr : r.Like r') :
    Option.Rel R ((Index.ofDiagram d).parentBy c r) ((Index.ofDiagram d').parentBy c' r') := by
  rw [Index.parentBy, Index.parentBy, ← hr.kind]
  split_ifs
  · rcases option_rel_cases (h.ends_rel hr) with ⟨hx, hx'⟩ | ⟨pair, pair', hx, hx', hends⟩
    · rw [hx, hx']
      exact .none
    · rw [hx, hx', Option.bind_some, Option.bind_some, h.ids hends.1, hid]
      split_ifs
      · exact .some hends.2
      · exact .none
  · exact .none

theorem parentEntity_eq (h : d.Corresponds R d') (hid : c.id = c'.id) :
    (Index.ofDiagram d).parentEntity c = (Index.ofDiagram d').parentEntity c' := by
  have hparents : Forall₂ R ((Index.ofDiagram d).parents c) ((Index.ofDiagram d').parents c') :=
    List.rel_filterMap (fun _ _ hr => h.parentBy_rel hid hr) h.relationships
  have hnames : ((Index.ofDiagram d).parents c).map ClassBox.entity =
      ((Index.ofDiagram d').parents c').map ClassBox.entity := by
    rw [← List.forall₂_eq_eq_eq, List.forall₂_map_left_iff, List.forall₂_map_right_iff]
    exact hparents.imp fun _ _ => h.names
  rw [Index.parentEntity, Index.parentEntity, ← List.getLast?_map, hnames, List.getLast?_map]

/-- Like relationships add the same relations. -/
theorem addRelationship_eq (h : d.Corresponds R d') (hid : c.id = c'.id) (hr : r.Like r')
    (found : Relations) :
    (Index.ofDiagram d).addRelationship c found r =
      (Index.ofDiagram d').addRelationship c' found r' := by
  rw [Index.addRelationship, Index.addRelationship]
  rcases option_rel_cases (h.ends_rel hr) with ⟨hx, hx'⟩ | ⟨pair, pair', hx, hx', hends⟩
  · rw [hx, hx']
  · rw [hx, hx']
    dsimp only
    rw [hr.kind, hr.multiplicity, h.ids hends.1, h.ids hends.2, h.names hends.1,
      h.names hends.2, hid]

theorem relations_eq (h : d.Corresponds R d') (hid : c.id = c'.id) :
    (Index.ofDiagram d).relations c = (Index.ofDiagram d').relations c' := by
  rw [Index.relations, Index.relations, h.parentEntity_eq hid]
  refine List.rel_foldl (P := Eq) ?_ rfl h.relationships
  rintro found _ rfl r r' hr
  exact h.addRelationship_eq hid hr found

/-- The indices of corresponding diagrams match. -/
theorem index_matches (h : d.Corresponds R d') :
    (Index.ofDiagram d).Matches R (Index.ofDiagram d') where
  entities := h.findEntity?_rel
  ids := h.ids
  names := h.names
  relations hc := h.relations_eq (h.ids hc)
  size := h.classes.length_eq

end Corresponds

end Diagram

/-! ### Indices that agree -/

namespace Index

/-- Two indices find the same entities and the same relations, among as many classes. -/
structure Agree (x x' : Index) : Prop where
  entities : ∀ entity, x.findEntity? entity = x'.findEntity? entity
  relations : ∀ c, x.relations c = x'.relations c
  size : x.diagram.classes.length = x'.diagram.classes.length

namespace Agree

variable {x x' : Index} (h : x.Agree x')
include h

/-- Every class corresponds to itself. -/
theorem matches_eq : x.Matches Eq x' where
  entities entity := by
    rw [h.entities]
    cases x'.findEntity? entity with
    | none => exact .none
    | some c => exact .some rfl
  ids hc := by rw [hc]
  names hc := by rw [hc]
  relations hc := by rw [hc, h.relations]
  size := h.size

theorem layers_eq (basePackage : String) (c : ClassBox) :
    x.layers basePackage c = x'.layers basePackage c := by
  have hproperties : ∀ b b', b = b' → x.properties b = x'.properties b' := by
    rintro b _ rfl
    rw [properties, properties, h.matches_eq.isEntity_eq]
  refine h.matches_eq.layers_eq rfl (hproperties c c rfl) ?_ ?_ ?_ basePackage
  · rw [h.matches_eq.isEntity_eq]
  · refine option_rel_imp (fun p p' hp => ?_) (h.matches_eq.parent?_rel rfl)
    rw [hproperties p p' hp]
  · rw [ownKey, ownKey, hproperties _ _ (h.matches_eq.root_rel rfl)]

theorem classSteps_eq (basePackage : String) :
    x.classSteps basePackage = x'.classSteps basePackage := by
  funext c
  simp only [classSteps, h.layers_eq]

end Agree

/-! ### Relations -/

section

variable {x x' : Index} (hends : ∀ r, x.ends r = x'.ends r)
include hends

theorem parentBy_congr (c : ClassBox) : x.parentBy c = x'.parentBy c := by
  funext r
  simp only [parentBy, hends]

theorem addRelationship_congr (c : ClassBox) : x.addRelationship c = x'.addRelationship c := by
  funext found r
  simp only [addRelationship, hends]

/-- Two indices find the same relations of a class if they find the same ends, and if their
relationships come to the same where they are read: for the parents of the class, and for what they
add to its relations. -/
theorem relations_congr {c : ClassBox}
    (hparents : x.diagram.relationships.filterMap (x'.parentBy c) =
      x'.diagram.relationships.filterMap (x'.parentBy c))
    (hadded : ∀ found, x.diagram.relationships.foldl (x'.addRelationship c) found =
      x'.diagram.relationships.foldl (x'.addRelationship c) found) :
    x.relations c = x'.relations c := by
  have hparent : x.parentEntity c = x'.parentEntity c := by
    rw [parentEntity, parentEntity, parents_eq_filterMap, parents_eq_filterMap,
      parentBy_congr hends, hparents]
  rw [relations, relations, hparent, addRelationship_congr hends, hadded]

end

end Index

end Scaffold

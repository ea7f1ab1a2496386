import Scaffold.Proofs.Entity.Correspondence
import Scaffold.Proofs.Project.Generated

/-!
# Relationships that say nothing

Some relationships of a diagram leave no trace in the project: those with an end that no class has,
those of an unknown kind, and those that would make many sources refer to a single target. Each of
them can be deleted, wherever it stands among the others.

Relationships are read twice for a class, once for the last of its parents and once for its
relations. Both times an inert relationship is passed over (`Index.parentBy_of_inert`,
`Index.addRelationship_of_inert`), and deletion is followed along the list by induction.

## Main definitions

* `Relationship.Inert`: a relationship that leaves no trace.
* `Thinned`: a list with some elements deleted.

## Main results

* `Diagram.agree_of_thinned`: inert relationships do not matter to an index.
* `generate_thinned`: they do not matter to a generation.
-/

namespace Scaffold

/-! ### Deletion -/

/-- A list from which some elements with a property are deleted, in any places. -/
inductive Thinned {α : Type} (P : α → Prop) : List α → List α → Prop
  | nil : Thinned P [] []
  | keep {a : α} {l l' : List α} (h : Thinned P l l') : Thinned P (a :: l) (a :: l')
  | delete {a : α} {l l' : List α} (ha : P a) (h : Thinned P l l') : Thinned P (a :: l) l'

namespace Thinned

variable {α β : Type} {P : α → Prop} {l l' : List α}

theorem map {Q : β → Prop} {f : α → β} (h : Thinned (fun a => Q (f a)) l l') :
    Thinned Q (l.map f) (l'.map f) := by
  induction h with
  | nil => exact .nil
  | keep _ ih => exact .keep ih
  | delete ha _ ih => exact .delete ha ih

/-- What is passed over can be deleted before filtering. -/
theorem filterMap_eq {f : α → Option β} (h : Thinned P l l') (hf : ∀ a, P a → f a = none) :
    l'.filterMap f = l.filterMap f := by
  induction h with
  | nil => rfl
  | keep _ ih => rw [List.filterMap_cons, List.filterMap_cons, ih]
  | delete ha _ ih => rw [ih, List.filterMap_cons_none (hf _ ha)]

/-- What changes nothing can be deleted from a run. -/
theorem foldl_eq {f : β → α → β} (h : Thinned P l l') (hf : ∀ a, P a → ∀ b, f b a = b) (b : β) :
    l'.foldl f b = l.foldl f b := by
  induction h generalizing b with
  | nil => rfl
  | keep _ ih => exact ih _
  | delete ha _ ih => rw [ih, List.foldl_cons, hf _ ha]

end Thinned

/-! ### Relationships -/

/-- A relationship that leaves no trace among some classes: no class is at its source or at its
target, its kind is not supported, or many sources share a single target. -/
inductive Relationship.Inert (classes : List ClassBox) (r : Relationship) : Prop
  | noSource (h : ∀ c ∈ classes, c.id ≠ r.sourceId)
  | noTarget (h : ∀ c ∈ classes, c.id ≠ r.targetId)
  | unsupported {text : String} (hkind : r.kind = .unsupported text)
  | manyToOne (hkind : r.kind.isPersistent = true)
      (hlabels : Multiplicity.ofLabels r.labels = ⟨true, false⟩)

namespace Index

variable {d : Diagram} {r : Relationship}

theorem findId?_eq_none_iff {id : String} :
    (ofDiagram d).findId? id = none ↔ ∀ c ∈ d.classes, c.id ≠ id := by
  simp [findId?_ofDiagram]

theorem ends_eq_none_of_source (h : ∀ c ∈ d.classes, c.id ≠ r.sourceId) :
    (ofDiagram d).ends r = none := by
  rw [ends, findId?_eq_none_iff.mpr h]

theorem ends_eq_none_of_target (h : ∀ c ∈ d.classes, c.id ≠ r.targetId) :
    (ofDiagram d).ends r = none := by
  rw [ends, findId?_eq_none_iff.mpr h]
  cases (ofDiagram d).findId? r.sourceId <;> rfl

theorem addRelationship_of_inert (h : r.Inert d.classes) (focal : ClassBox) (found : Relations) :
    (ofDiagram d).addRelationship focal found r = found := by
  rw [addRelationship]
  cases h with
  | noSource h => rw [ends_eq_none_of_source h]
  | noTarget h => rw [ends_eq_none_of_target h]
  | unsupported hkind =>
    cases (ofDiagram d).ends r with
    | none => rfl
    | some pair => simp [hkind, RelationshipKind.isPersistent]
  | manyToOne hkind hlabels =>
    cases (ofDiagram d).ends r with
    | none => rfl
    | some pair => simp [hkind, hlabels, Relations.addAtSource, Relations.addAtTarget]

/-- An inert relationship does not give a class a parent. -/
theorem parentBy_of_inert (h : r.Inert d.classes) (focal : ClassBox) :
    (ofDiagram d).parentBy focal r = none := by
  rw [parentBy]
  cases h with
  | noSource h => simp [ends_eq_none_of_source h]
  | noTarget h => simp [ends_eq_none_of_target h]
  | unsupported hkind => simp [hkind]
  | manyToOne hkind hlabels =>
    rw [if_neg]
    intro hgeneralization
    rw [hgeneralization] at hkind
    cases hkind

end Index

namespace Diagram

variable {d d' : Diagram}

theorem ends_congr (hclasses : d'.classes = d.classes) (r : Relationship) :
    (Index.ofDiagram d').ends r = (Index.ofDiagram d).ends r := by
  simp only [Index.ends, Index.findId?_ofDiagram, hclasses]

/-- Inert relationships do not matter to an index. -/
theorem agree_of_thinned (hclasses : d'.classes = d.classes)
    (h : Thinned (Relationship.Inert d.classes) d.relationships d'.relationships) :
    (Index.ofDiagram d').Agree (Index.ofDiagram d) := by
  constructor
  · intro entity
    rw [Index.findEntity?_ofDiagram, Index.findEntity?_ofDiagram, hclasses]
  · intro c
    exact Index.relations_congr (ends_congr hclasses)
      (h.filterMap_eq fun r hr => Index.parentBy_of_inert hr c)
      (h.foldl_eq fun r hr found => Index.addRelationship_of_inert hr c found)
  · exact congrArg List.length hclasses

end Diagram

/-! ### Thinned diagrams -/

/-- **Inert relationships leave no trace.** If relationships are deleted from a diagram, in whatever
places, and the normal form of each is inert, then every renderer makes the same project of what is
left, or fails in the same way. -/
theorem generate_thinned {d d' : Diagram} (hclasses : d'.classes = d.classes)
    (hrelationships : Thinned (fun r => r.normalize.Inert d.normalize.classes) d.relationships
      d'.relationships) (p : Parameters) (render : Renderer) :
    generate d' p render = generate d p render := by
  have hclasses' : d'.normalize.classes = d.normalize.classes := by
    rw [Diagram.normalize, Diagram.normalize, hclasses]
  have hagree : (Index.ofDiagram d'.normalize).Agree (Index.ofDiagram d.normalize) :=
    Diagram.agree_of_thinned hclasses' hrelationships.map
  have hsteps : generationSteps d' p = generationSteps d p := by
    rw [generationSteps_eq, generationSteps_eq, hagree.classSteps_eq, hclasses']
  rw [generate, generate, hsteps]

/-- A diagram with relationships that leave no trace, in front of others, between and behind. -/
def clutteredDiagram : Diagram where
  classes := [.named "a" "Author", .named "b" "Book"]
  relationships :=
    [.between .generalization "b" " gone " [],
     .between .generalization "b" "a" [],
     .between .generalization "b" "Book" [],
     .between .association "a" "b" ["1", "0..*"],
     .between .composition "b" "a" [" 1..* ", "1"],
     .between (.unsupported "dependency") "a" "b" [],
     .between .aggregation "a" "a" ["*", "*"],
     .between .association "" "b" ["1", "1"]]

/-- The same diagram without them. -/
def tidiedDiagram : Diagram where
  classes := clutteredDiagram.classes
  relationships :=
    [.between .generalization "b" "a" [], .between .association "a" "b" ["1", "0..*"],
     .between .aggregation "a" "a" ["*", "*"]]

theorem generate_thinned_tidied :
    Thinned (fun r => r.normalize.Inert clutteredDiagram.normalize.classes)
        clutteredDiagram.relationships tidiedDiagram.relationships ∧
      generate tidiedDiagram (.standard "com.example" "books") builtinRenderer =
        generate clutteredDiagram (.standard "com.example" "books") builtinRenderer := by
  have hthinned : Thinned (fun r => r.normalize.Inert clutteredDiagram.normalize.classes)
      clutteredDiagram.relationships tidiedDiagram.relationships := by
    refine .delete (.noTarget ?_) (.keep (.delete (.noTarget ?_) (.keep (.delete (.manyToOne ?_ ?_)
      (.delete (.unsupported rfl) (.keep (.delete (.noSource ?_) .nil)))))))
    all_goals decide +kernel
  have hclasses : tidiedDiagram.classes = clutteredDiagram.classes := rfl
  exact ⟨hthinned, generate_thinned hclasses hthinned _ _⟩

end Scaffold

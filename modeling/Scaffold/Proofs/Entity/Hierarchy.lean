import Mathlib.Logic.Relation
import Scaffold.Entity.Layers
import Scaffold.Proofs.Diagram.Lookup

/-!
# Climbing a hierarchy

A class extends the class that the last of its generalizations leads to. This is a relation between
the classes of a diagram, said without any walk; its reflexive and transitive closure leads from a
class to all its ancestors, and an ancestor that extends nothing is the top of the hierarchy.

The walk of an index follows parents by their type identifiers, is cut off after as many steps as
there are classes, and stops before it would return to a class. In an unambiguous diagram whose
hierarchies have no cycle neither limit is ever met: the classes that were passed are different
classes of the diagram, so there are always enough steps, and a parent that was passed would close a
cycle.

## Main definitions

* `Diagram.Extends`, `Diagram.Acyclic`: the parent of a class, and hierarchies without cycles.
* `Diagram.IsTop`: the top of the hierarchy of a class.

## Main results

* `Diagram.Unambiguous.parent?_eq_some_iff`: the parent that is looked up is the parent.
* `Diagram.Unambiguous.root_isTop`: the walk ends at the top.
* `Diagram.Unambiguous.isTop_unique`: there is only one top.
-/

namespace Scaffold

open Relation (ReflTransGen TransGen)

/-- The last element for which a partial function is defined gives the last of its values. -/
theorem getLast?_filterMap_eq_some_iff {α β : Type} {f : α → Option β} {l : List α} {b : β} :
    (l.filterMap f).getLast? = some b ↔
      ∃ before a after, l = before ++ a :: after ∧ f a = some b ∧ ∀ a' ∈ after, f a' = none := by
  rw [List.getLast?_filterMap, List.findSome?_eq_some_iff]
  constructor
  · rintro ⟨after, a, before, hl, ha, hafter⟩
    refine ⟨before.reverse, a, after.reverse, ?_, ha, by simpa using hafter⟩
    simpa using congrArg List.reverse hl
  · rintro ⟨before, a, after, rfl, ha, hafter⟩
    exact ⟨after.reverse, a, before.reverse, by simp, ha, by simpa using hafter⟩

/-- The parent that one relationship names for a class. -/
def Index.parentBy (x : Index) (c : ClassBox) (r : Relationship) : Option ClassBox :=
  if r.kind = .generalization then
    (x.ends r).bind fun pair => if pair.1.id = c.id then some pair.2 else none
  else none

theorem Index.parents_eq_filterMap (x : Index) (c : ClassBox) :
    x.parents c = x.diagram.relationships.filterMap (x.parentBy c) :=
  rfl

namespace Diagram

/-- A class extends the class at the target of the last of its generalizations, where those that
lead to no class of the diagram do not count. -/
def Extends (d : Diagram) (c parent : ClassBox) : Prop :=
  c ∈ d.classes ∧ parent ∈ d.classes ∧
    ∃ before r after, d.relationships = before ++ r :: after ∧
      (r.kind = .generalization ∧ r.sourceId = c.id ∧ r.targetId = parent.id) ∧
      ∀ r' ∈ after, r'.kind = .generalization → r'.sourceId = c.id →
        ∀ c' ∈ d.classes, r'.targetId ≠ c'.id

/-- Following the parents of a class never leads back to it. -/
def Acyclic (d : Diagram) : Prop :=
  ∀ c, ¬ TransGen d.Extends c c

/-- An ancestor of a class, or the class itself, that extends nothing. -/
structure IsTop (d : Diagram) (c top : ClassBox) : Prop where
  chain : ReflTransGen d.Extends c top
  extends_nothing : ∀ parent, ¬ d.Extends top parent

variable {d : Diagram} {c parent top : ClassBox}

/-! ### Parents -/

namespace DistinctIds

theorem parentBy_eq_some_iff (h : d.DistinctIds) (hc : c ∈ d.classes) {r : Relationship} :
    (Index.ofDiagram d).parentBy c r = some parent ↔
      parent ∈ d.classes ∧
        (r.kind = .generalization ∧ r.sourceId = c.id ∧ r.targetId = parent.id) := by
  by_cases hkind : r.kind = .generalization
  · simp only [Index.parentBy, hkind, if_true, true_and]
    rw [Option.bind_eq_some_iff]
    constructor
    · rintro ⟨⟨source, target⟩, hends, htarget⟩
      obtain ⟨⟨-, hsource⟩, hmem, hid⟩ := h.ends_eq_some_iff.mp hends
      obtain ⟨heq, rfl⟩ : source.id = c.id ∧ target = parent := by simpa using htarget
      exact ⟨hmem, hsource ▸ heq, hid.symm⟩
    · rintro ⟨hmem, hsource, hid⟩
      exact ⟨(c, parent), h.ends_eq_some_iff.mpr ⟨⟨hc, hsource.symm⟩, hmem, hid.symm⟩, by simp⟩
  · simp [Index.parentBy, hkind]

theorem parentBy_eq_none_iff (h : d.DistinctIds) (hc : c ∈ d.classes) {r : Relationship} :
    (Index.ofDiagram d).parentBy c r = none ↔
      (r.kind = .generalization → r.sourceId = c.id →
        ∀ c' ∈ d.classes, r.targetId ≠ c'.id) := by
  rw [Option.eq_none_iff_forall_ne_some]
  simp only [ne_eq, h.parentBy_eq_some_iff hc]
  exact ⟨fun hno hkind hsource c' hc' hid => hno c' ⟨hc', hkind, hsource, hid⟩,
    fun hno c' ⟨hc', hkind, hsource, hid⟩ => hno hkind hsource c' hc' hid⟩

theorem getLast?_parents_eq_some_iff (h : d.DistinctIds) (hc : c ∈ d.classes) :
    ((Index.ofDiagram d).parents c).getLast? = some parent ↔ d.Extends c parent := by
  rw [Index.parents_eq_filterMap, getLast?_filterMap_eq_some_iff]
  simp only [h.parentBy_eq_some_iff hc, h.parentBy_eq_none_iff hc]
  constructor
  · rintro ⟨before, r, after, hrs, ⟨hmem, hr⟩, hafter⟩
    exact ⟨hc, hmem, before, r, after, hrs, hr, hafter⟩
  · rintro ⟨-, hmem, before, r, after, hrs, hr, hafter⟩
    exact ⟨before, r, after, hrs, ⟨hmem, hr⟩, hafter⟩

theorem parentEntity_eq_some_iff (h : d.DistinctIds) (hc : c ∈ d.classes) {entity : String} :
    (Index.ofDiagram d).parentEntity c = some entity ↔
      ∃ parent, d.Extends c parent ∧ parent.entity = entity := by
  rw [Index.parentEntity, Option.map_eq_some_iff]
  simp only [h.getLast?_parents_eq_some_iff hc]

end DistinctIds

namespace Unambiguous

theorem parent?_eq_some_iff (h : d.Unambiguous) (hc : c ∈ d.classes) :
    (Index.ofDiagram d).parent? c = some parent ↔ d.Extends c parent := by
  rw [Index.parent?, Option.bind_eq_some_iff]
  constructor
  · rintro ⟨entity, hentity, hfind⟩
    obtain ⟨p, hext, rfl⟩ := (h.distinctIds.parentEntity_eq_some_iff hc).mp hentity
    obtain ⟨hparent, heq⟩ := h.findEntity?_eq_some_iff.mp hfind
    rwa [(h.entity_eq_iff hparent hext.2.1).mp heq]
  · intro hext
    exact ⟨parent.entity, (h.distinctIds.parentEntity_eq_some_iff hc).mpr ⟨parent, hext, rfl⟩,
      h.findEntity?_eq_some_iff.mpr ⟨hext.2.1, rfl⟩⟩

theorem parent?_eq_none_iff (h : d.Unambiguous) (hc : c ∈ d.classes) :
    (Index.ofDiagram d).parent? c = none ↔ ∀ parent, ¬ d.Extends c parent := by
  rw [Option.eq_none_iff_forall_ne_some]
  simp only [ne_eq, h.parent?_eq_some_iff hc]

/-- A parent that a class names is always found. -/
theorem isSome_parentEntity (h : d.Unambiguous) (hc : c ∈ d.classes) :
    ((Index.ofDiagram d).parentEntity c).isSome = ((Index.ofDiagram d).parent? c).isSome := by
  rw [Bool.eq_iff_iff, Option.isSome_iff_exists, Option.isSome_iff_exists]
  simp only [h.distinctIds.parentEntity_eq_some_iff hc, h.parent?_eq_some_iff hc]
  exact ⟨fun ⟨_, p, hp, _⟩ => ⟨p, hp⟩, fun ⟨p, hp⟩ => ⟨p.entity, p, hp, rfl⟩⟩

/-- Hierarchies have no cycle if every class stands higher than its parent in some order. -/
theorem acyclic_of_rank (h : d.Unambiguous) (rank : ClassBox → Nat)
    (hrank : ∀ c ∈ d.classes, ∀ p ∈ d.classes,
      (Index.ofDiagram d).parent? c = some p → rank p < rank c) : d.Acyclic := by
  have hstep : ∀ {c p}, d.Extends c p → rank p < rank c := fun {c p} hext =>
    hrank c hext.1 p hext.2.1 ((h.parent?_eq_some_iff hext.1).mpr hext)
  have hchain : ∀ {c b}, TransGen d.Extends c b → rank b < rank c := by
    intro c b hcb
    induction hcb with
    | single hext => exact hstep hext
    | tail _ hext ih => exact Nat.lt_trans (hstep hext) ih
  exact fun c hcycle => Nat.lt_irrefl _ (hchain hcycle)

/-! ### The walk to the top -/

theorem mem_of_reflTransGen (hc : c ∈ d.classes) (hchain : ReflTransGen d.Extends c top) :
    top ∈ d.classes := by
  induction hchain with
  | refl => exact hc
  | tail _ hstep _ => exact hstep.2.1

/-- The walk ends at the top. What carries the induction is that the identifiers in `passed` are
different and all belong to descendants of the class that was reached: they are at most as many as
there are classes, and none of them is that of a parent. -/
theorem climb_isTop (h : d.Unambiguous) (hacyclic : d.Acyclic) {steps : Nat}
    {passed : List String} (hc : c ∈ d.classes) (hnodup : passed.Nodup)
    (hpassed : ∀ id ∈ passed, ∃ b ∈ d.classes, b.id = id ∧ ReflTransGen d.Extends b c)
    (hsteps : passed.length + steps = d.classes.length + 1) :
    d.IsTop c ((Index.ofDiagram d).climb steps passed c) := by
  induction steps generalizing passed c with
  | zero =>
    have hsubset : passed ⊆ d.classes.map ClassBox.id := by
      intro id hid
      obtain ⟨b, hb, rfl, -⟩ := hpassed id hid
      exact List.mem_map_of_mem hb
    have hle := hnodup.length_le_of_subset hsubset
    rw [List.length_map] at hle
    omega
  | succ steps ih =>
    cases hparent : (Index.ofDiagram d).parent? c with
    | none =>
      simp only [Index.climb, hparent]
      exact ⟨.refl, (h.parent?_eq_none_iff hc).mp hparent⟩
    | some p =>
      have hext : d.Extends c p := (h.parent?_eq_some_iff hc).mp hparent
      have hfresh : p.id ∉ passed := by
        intro hmem
        obtain ⟨b, hb, hid, hchain⟩ := hpassed _ hmem
        obtain rfl := (h.id_eq_iff hb hext.2.1).mp hid
        exact hacyclic b (.tail' hchain hext)
      simp only [Index.climb, hparent, if_neg hfresh]
      have htop : d.IsTop p ((Index.ofDiagram d).climb steps (p.id :: passed) p) := by
        refine ih hext.2.1 (List.nodup_cons.mpr ⟨hfresh, hnodup⟩) ?_ ?_
        · intro id hid
          rcases List.mem_cons.mp hid with rfl | hid
          · exact ⟨p, hext.2.1, rfl, .refl⟩
          · obtain ⟨b, hb, hbid, hchain⟩ := hpassed id hid
            exact ⟨b, hb, hbid, hchain.tail hext⟩
        · rw [List.length_cons]
          omega
      exact ⟨.head hext htop.chain, htop.extends_nothing⟩

theorem root_isTop (h : d.Unambiguous) (hacyclic : d.Acyclic) (hc : c ∈ d.classes) :
    d.IsTop c ((Index.ofDiagram d).root c) := by
  refine h.climb_isTop hacyclic hc (List.nodup_singleton _) ?_ ?_
  · intro id hid
    exact ⟨c, hc, (List.mem_singleton.mp hid).symm, .refl⟩
  · simp [Index.ofDiagram, Nat.add_comm]

theorem extends_rightUnique (h : d.Unambiguous) : Relator.RightUnique d.Extends := by
  intro c p q hp hq
  have hp' := (h.parent?_eq_some_iff hp.1).mpr hp
  have hq' := (h.parent?_eq_some_iff hq.1).mpr hq
  exact Option.some.inj (hp'.symm.trans hq')

theorem isTop_unique (h : d.Unambiguous) {top' : ClassBox} (htop : d.IsTop c top)
    (htop' : d.IsTop c top') : top' = top := by
  have hstuck : ∀ {b b' : ClassBox}, (∀ p, ¬ d.Extends b p) → ReflTransGen d.Extends b b' →
      b' = b := by
    intro b b' hnothing hchain
    rcases hchain.cases_head with rfl | ⟨p, hstep, -⟩
    · rfl
    · exact absurd hstep (hnothing p)
  rcases htop.chain.total_of_right_unique h.extends_rightUnique htop'.chain with hup | hup
  · exact hstuck htop.extends_nothing hup
  · exact (hstuck htop'.extends_nothing hup).symm

end Unambiguous

end Diagram

end Scaffold

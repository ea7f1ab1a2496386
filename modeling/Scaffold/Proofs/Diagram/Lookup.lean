import Mathlib.Data.List.Nodup
import Scaffold.Diagram.Index

/-!
# Looking classes up

An index is filled in one pass, and a value entered under a key that is taken is ignored. What it
finds is therefore what a scan of the classes finds first. In a diagram whose classes have different
identifiers and different type identifiers nothing is ever ignored, and a look-up is the same as
being a class of the diagram with the key.

## Main definitions

* `Diagram.DistinctIds`: no two classes of the diagram share an identifier.
* `Diagram.Unambiguous`: no two classes of the diagram share an identifier or a type identifier.

## Main results

* `Index.findId?_ofDiagram`, `Index.findEntity?_ofDiagram`: the look-ups as scans.
* `Index.lookups_eq_scans`: the look-ups and the dangling relationships as scans.
* `Diagram.DistinctIds.findId?_eq_some_iff`, `Diagram.Unambiguous.findEntity?_eq_some_iff`: the
  look-ups as membership.
-/

namespace Scaffold

/-! ### Tables -/

namespace FirstWins

variable {α : Type}

@[simp] theorem find?_empty (k : String) : (empty : FirstWins α).find? k = none :=
  rfl

theorem find?_enter (t : FirstWins α) (key k : String) (value : α) :
    (t.enter key value).find? k = (t.find? k).or (if key = k then some value else none) := by
  unfold enter
  by_cases htaken : (t.find? key).isSome
  · obtain ⟨old, hold⟩ := Option.isSome_iff_exists.mp htaken
    rw [if_pos htaken]
    by_cases hk : key = k
    · subst hk; simp [hold]
    · simp [hk]
  · rw [if_neg htaken]
    simp only [find?, List.lookup_append]
    by_cases hk : key = k
    · subst hk; simp
    · have hk' : (k == key) = false := by simpa using fun h => hk h.symm
      simp [List.lookup_cons, hk, hk']

/-- A table finds what it held before, and otherwise the first value that was entered. -/
theorem find?_foldl_enter (key : α → String) (values : List α) (t : FirstWins α) (k : String) :
    (values.foldl (fun t v => t.enter (key v) v) t).find? k =
      (t.find? k).or (values.find? fun v => key v == k) := by
  induction values generalizing t with
  | nil => simp
  | cons v rest ih =>
    rw [List.foldl_cons, ih, find?_enter, Option.or_assoc, List.find?_cons]
    by_cases hv : key v = k
    · simp [hv]
    · simp [hv, beq_eq_false_iff_ne.mpr hv]

/-- Where all keys are different and free, every value is entered. -/
theorem entries_foldl_enter {key : α → String} {values : List α} {t : FirstWins α}
    (hkeys : (values.map key).Nodup) (hfree : ∀ v ∈ values, t.find? (key v) = none) :
    (values.foldl (fun t v => t.enter (key v) v) t).entries =
      t.entries ++ values.map fun v => (key v, v) := by
  induction values generalizing t with
  | nil => simp
  | cons v rest ih =>
    rw [List.map_cons, List.nodup_cons] at hkeys
    have hnone := hfree v List.mem_cons_self
    have hrest : ∀ w ∈ rest, (t.enter (key v) v).find? (key w) = none := by
      intro w hw
      have hne : key v ≠ key w := fun heq => hkeys.1 (heq ▸ List.mem_map_of_mem hw)
      rw [find?_enter, hfree w (List.mem_cons_of_mem v hw), if_neg hne, Option.or_none]
    have hentered : (t.enter (key v) v).entries = t.entries ++ [(key v, v)] := by
      rw [enter, if_neg (by simp [hnone])]
    rw [List.foldl_cons, ih hkeys.2 hrest, hentered, List.append_assoc, List.map_cons,
      List.singleton_append]

end FirstWins

/-- In a list whose elements have different keys, finding a key is being there with it. -/
theorem find?_key_eq_some_iff {α κ : Type} [BEq κ] [LawfulBEq κ] {key : α → κ} {l : List α}
    (h : (l.map key).Nodup) {k : κ} {a : α} :
    l.find? (fun b => key b == k) = some a ↔ a ∈ l ∧ key a = k := by
  constructor
  · intro hfind
    exact ⟨List.mem_of_find?_eq_some hfind, by simpa using List.find?_some hfind⟩
  · rintro ⟨hmem, hkey⟩
    have hsome : (l.find? fun b => key b == k).isSome :=
      List.find?_isSome.mpr ⟨a, hmem, by simp [hkey]⟩
    obtain ⟨b, hb⟩ := Option.isSome_iff_exists.mp hsome
    have hkb : key b = k := by simpa using List.find?_some hb
    rw [hb, List.inj_on_of_nodup_map h (List.mem_of_find?_eq_some hb) hmem (hkb.trans hkey.symm)]

/-! ### Classes -/

namespace Index

theorem findId?_ofDiagram (d : Diagram) (id : String) :
    (ofDiagram d).findId? id = d.classes.find? fun c => c.id == id := by
  rw [findId?, ofDiagram, FirstWins.find?_foldl_enter, FirstWins.find?_empty, Option.none_or]

theorem findEntity?_ofDiagram (d : Diagram) (entity : String) :
    (ofDiagram d).findEntity? entity = d.classes.find? fun c => c.entity == entity := by
  rw [findEntity?, ofDiagram, FirstWins.find?_foldl_enter, FirstWins.find?_empty, Option.none_or]

/-- **An index finds what scans find.** In any diagram, classes with shared identifiers and shared
type identifiers included, a look-up finds the first class that a scan of the classes finds, and
nothing if the scan finds nothing. The dangling relationships are, in the order of the diagram,
those with an end for which the scan finds nothing. -/
theorem lookups_eq_scans (d : Diagram) :
    (∀ id, (ofDiagram d).findId? id = d.classes.find? fun c => c.id == id) ∧
    (∀ entity, (ofDiagram d).findEntity? entity =
      d.classes.find? fun c => Naming.entityName c.name == entity) ∧
    (ofDiagram d).dangling = d.relationships.filter fun r =>
      (d.classes.find? fun c => c.id == r.sourceId).isNone ||
        (d.classes.find? fun c => c.id == r.targetId).isNone := by
  refine ⟨findId?_ofDiagram d, findEntity?_ofDiagram d, ?_⟩
  have hdiagram : (ofDiagram d).diagram = d := rfl
  simp only [dangling, hdiagram, findId?_ofDiagram]

theorem mem_of_findId? {d : Diagram} {id : String} {c : ClassBox}
    (h : (ofDiagram d).findId? id = some c) : c ∈ d.classes := by
  rw [findId?_ofDiagram] at h
  exact List.mem_of_find?_eq_some h

theorem mem_of_findEntity? {d : Diagram} {entity : String} {c : ClassBox}
    (h : (ofDiagram d).findEntity? entity = some c) : c ∈ d.classes ∧ c.entity = entity := by
  rw [findEntity?_ofDiagram] at h
  exact ⟨List.mem_of_find?_eq_some h, by simpa using List.find?_some h⟩

theorem ends_eq_some_iff {x : Index} {r : Relationship} {source target : ClassBox} :
    x.ends r = some (source, target) ↔
      x.findId? r.sourceId = some source ∧ x.findId? r.targetId = some target := by
  unfold ends
  cases x.findId? r.sourceId <;> cases x.findId? r.targetId <;> simp

end Index

/-- No two classes of a diagram have the same identifier. -/
def Diagram.DistinctIds (d : Diagram) : Prop :=
  (d.classes.map ClassBox.id).Nodup

instance (d : Diagram) : Decidable d.DistinctIds :=
  inferInstanceAs (Decidable (d.classes.map ClassBox.id).Nodup)

/-- No two classes of a diagram have the same identifier or the same type identifier. -/
structure Diagram.Unambiguous (d : Diagram) : Prop where
  ids : (d.classes.map ClassBox.id).Nodup
  entities : (d.classes.map ClassBox.entity).Nodup

namespace Diagram

variable {d : Diagram} {c c' source target : ClassBox}

namespace DistinctIds

theorem findId?_eq_some_iff (h : d.DistinctIds) {id : String} :
    (Index.ofDiagram d).findId? id = some c ↔ c ∈ d.classes ∧ c.id = id := by
  rw [Index.findId?_ofDiagram, find?_key_eq_some_iff h]

theorem ends_eq_some_iff (h : d.DistinctIds) {r : Relationship} :
    (Index.ofDiagram d).ends r = some (source, target) ↔
      (source ∈ d.classes ∧ source.id = r.sourceId) ∧
        (target ∈ d.classes ∧ target.id = r.targetId) := by
  rw [Index.ends_eq_some_iff, h.findId?_eq_some_iff, h.findId?_eq_some_iff]

theorem id_eq_iff (h : d.DistinctIds) (hc : c ∈ d.classes) (hc' : c' ∈ d.classes) :
    c.id = c'.id ↔ c = c' :=
  ⟨List.inj_on_of_nodup_map h hc hc', congrArg _⟩

end DistinctIds

namespace Unambiguous

theorem distinctIds (h : d.Unambiguous) : d.DistinctIds :=
  h.ids

theorem findEntity?_eq_some_iff (h : d.Unambiguous) {entity : String} :
    (Index.ofDiagram d).findEntity? entity = some c ↔ c ∈ d.classes ∧ c.entity = entity := by
  rw [Index.findEntity?_ofDiagram, find?_key_eq_some_iff h.entities]

theorem ends_eq_some_iff (h : d.Unambiguous) {r : Relationship} :
    (Index.ofDiagram d).ends r = some (source, target) ↔
      (source ∈ d.classes ∧ source.id = r.sourceId) ∧
        (target ∈ d.classes ∧ target.id = r.targetId) :=
  h.distinctIds.ends_eq_some_iff

theorem id_eq_iff (h : d.Unambiguous) (hc : c ∈ d.classes) (hc' : c' ∈ d.classes) :
    c.id = c'.id ↔ c = c' :=
  h.distinctIds.id_eq_iff hc hc'

theorem entity_eq_iff (h : d.Unambiguous) (hc : c ∈ d.classes) (hc' : c' ∈ d.classes) :
    c.entity = c'.entity ↔ c = c' :=
  ⟨List.inj_on_of_nodup_map h.entities hc hc', congrArg _⟩

end Unambiguous

end Diagram

end Scaffold

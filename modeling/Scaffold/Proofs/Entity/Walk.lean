import Mathlib.Data.List.Dedup
import Scaffold.Entity.Layers
import Scaffold.Proofs.Diagram.Lookup

/-!
# Walking up in any diagram

Nothing is asked of the diagram here: generalizations may run in circles, a class may name several
parents or itself, and classes may share identifiers and names, so that the parent that is found is
not even the class that a generalization leads to. The walk up from a class still ends, because it
never goes to a class with an identifier that it has passed.

`Index.Walks` is the walk as a rule, without any bound on its length. What bounds it is that the
identifiers that were passed are different and all belong to classes of the diagram; so there are
at most as many as there are different identifiers (`Diagram.exists_walks`). The bound that the
index puts on its walk is larger, and is therefore never what ends it.

## Main definitions

* `Index.Walks`: the classes that a walk goes through until it ends.

## Main results

* `Index.Walks.climb_eq`: where the walk of an index is after some steps.
* `root_ends_walk`: the top of a hierarchy is the end of a walk up.
-/

namespace Scaffold

namespace Index

/-- A walk up from a class that has passed some identifiers goes through the classes of a list, in
that order, and ends: at a class without a parent, or below a parent that was passed. -/
inductive Walks (x : Index) : (passed : List String) → ClassBox → List ClassBox → Prop
  | top {passed : List String} {c : ClassBox} :
      x.parent? c = none → Walks x passed c []
  | back {passed : List String} {c parent : ClassBox} :
      x.parent? c = some parent → parent.id ∈ passed → Walks x passed c []
  | up {passed : List String} {c parent : ClassBox} {way : List ClassBox} :
      x.parent? c = some parent → parent.id ∉ passed →
      Walks x (parent.id :: passed) parent way → Walks x passed c (parent :: way)

namespace Walks

variable {x : Index} {passed : List String} {c : ClassBox} {way : List ClassBox}

/-- The walk of an index follows the rule for as many steps as it is given, and stays where it
ends. -/
theorem climb_eq (h : x.Walks passed c way) (steps : Nat) :
    (c :: way)[min steps way.length]? = some (x.climb steps passed c) := by
  induction h generalizing steps with
  | top hnone => cases steps <;> simp [climb, hnone]
  | back hparent hpassed => cases steps <;> simp [climb, hparent, hpassed]
  | up hparent hfresh _ ih =>
    cases steps with
    | zero => simp [climb]
    | succ steps =>
      simp only [climb, hparent, if_neg hfresh, List.length_cons]
      rw [Nat.succ_min_succ, List.getElem?_cons_succ, ih steps]

/-- Every class that a walk goes through is the parent of the one in front of it. -/
theorem isChain (h : x.Walks passed c way) :
    (c :: way).IsChain fun a b => x.parent? a = some b := by
  induction h with
  | top _ | back _ _ => exact .singleton _
  | up hparent _ _ ih => exact .cons_cons hparent ih

/-- A walk passes no identifier twice. -/
theorem nodup (h : x.Walks passed c way) (hpassed : passed.Nodup) :
    (way.map ClassBox.id ++ passed).Nodup := by
  induction h with
  | top _ | back _ _ => exact hpassed
  | up _ hfresh _ ih =>
    have hcons := ih (List.nodup_cons.mpr ⟨hfresh, hpassed⟩)
    rwa [List.nodup_middle] at hcons

/-- What a walk ends below was passed. -/
theorem id_mem_of_parent?_getLast (h : x.Walks passed c way) {last parent : ClassBox}
    (hlast : (c :: way).getLast? = some last) (hparent : x.parent? last = some parent) :
    parent.id ∈ way.map ClassBox.id ++ passed := by
  induction h with
  | top hnone =>
    obtain rfl := Option.some.inj hlast
    cases hnone.symm.trans hparent
  | back hparent' hpassed =>
    obtain rfl := Option.some.inj hlast
    obtain rfl := Option.some.inj (hparent'.symm.trans hparent)
    exact hpassed
  | up _ _ _ ih =>
    have hmem := ih (by rwa [List.getLast?_cons_cons] at hlast)
    simp only [List.map_cons, List.mem_append, List.mem_cons] at hmem ⊢
    tauto

end Walks

end Index

namespace Diagram

variable {d : Diagram} {c parent : ClassBox}

theorem mem_of_parent? (h : (Index.ofDiagram d).parent? c = some parent) : parent ∈ d.classes := by
  obtain ⟨entity, -, hfind⟩ := Option.bind_eq_some_iff.mp h
  exact (Index.mem_of_findEntity? hfind).1

/-- Different identifiers of classes of a diagram are at most as many as it has. -/
theorem length_le_of_ids {ids : List String} (hnodup : ids.Nodup)
    (hids : ∀ id ∈ ids, id ∈ d.classes.map ClassBox.id) :
    ids.length ≤ (d.classes.map ClassBox.id).dedup.length :=
  hnodup.length_le_of_subset fun id hid => List.mem_dedup.mpr (hids id hid)

/-- Every walk ends, and passes at most as many identifiers as the diagram has. The induction is on
how many are left to pass. -/
theorem exists_walks (d : Diagram) {passed : List String} (c : ClassBox) (hnodup : passed.Nodup)
    (hpassed : ∀ id ∈ passed, id ∈ d.classes.map ClassBox.id) :
    ∃ way, (Index.ofDiagram d).Walks passed c way ∧
      way.length + passed.length ≤ (d.classes.map ClassBox.id).dedup.length := by
  induction hleft : (d.classes.map ClassBox.id).dedup.length - passed.length
    using Nat.strongRecOn generalizing passed c with
  | ind left ih =>
    have hle := length_le_of_ids hnodup hpassed
    cases hparent : (Index.ofDiagram d).parent? c with
    | none => exact ⟨[], .top hparent, by simpa using hle⟩
    | some parent =>
      by_cases hfresh : parent.id ∈ passed
      · exact ⟨[], .back hparent hfresh, by simpa using hle⟩
      · have hnodup' : (parent.id :: passed).Nodup := List.nodup_cons.mpr ⟨hfresh, hnodup⟩
        have hpassed' : ∀ id ∈ parent.id :: passed, id ∈ d.classes.map ClassBox.id :=
          List.forall_mem_cons.mpr ⟨List.mem_map_of_mem (mem_of_parent? hparent), hpassed⟩
        have hle' := length_le_of_ids hnodup' hpassed'
        rw [List.length_cons] at hle'
        obtain ⟨way, hway, hlength⟩ := ih _ (by rw [List.length_cons]; omega) parent hnodup'
          hpassed' rfl
        refine ⟨parent :: way, .up hparent hfresh hway, ?_⟩
        simp only [List.length_cons] at hlength ⊢
        omega

end Diagram

/-- **Every walk up ends.** Whatever the generalizations of a diagram are, the walk up from one of
its classes goes through classes of which each is the parent of the one in front, and of which no
two have the same identifier: after every number of steps it is at the class that many places
further, or at the last. With its start it goes through at most as many classes as the diagram has
different identifiers. The top of the hierarchy is the class at which it ends, and that one has no
parent, or one with an identifier that was passed. -/
theorem root_ends_walk (d : Diagram) {c : ClassBox} (hc : c ∈ d.classes) :
    let x := Index.ofDiagram d
    ∃ way : List ClassBox,
      (c :: way).IsChain (fun a b => x.parent? a = some b) ∧
      ((c :: way).map ClassBox.id).Nodup ∧
      (∀ steps, (c :: way)[min steps way.length]? = some (x.climb steps [c.id] c)) ∧
      (c :: way).length ≤ (d.classes.map ClassBox.id).dedup.length ∧
      (c :: way).getLast? = some (x.root c) ∧
      (x.parent? (x.root c) = none ∨
        ∃ parent, x.parent? (x.root c) = some parent ∧
          parent.id ∈ (c :: way).map ClassBox.id) := by
  intro x
  have hstart : ∀ id ∈ [c.id], id ∈ d.classes.map ClassBox.id := fun id hid =>
    List.mem_singleton.mp hid ▸ List.mem_map_of_mem hc
  obtain ⟨way, hway, hlength⟩ := d.exists_walks c (List.nodup_singleton _) hstart
  have hclimb := hway.climb_eq
  have hlast : (c :: way).getLast? = some (x.root c) := by
    -- the diagram has as many classes as identifiers or more, so its bound is not met
    have hbound := (List.dedup_sublist (d.classes.map ClassBox.id)).length_le
    rw [List.length_map] at hbound
    have hend := hclimb d.classes.length
    rw [List.length_singleton] at hlength
    rw [Nat.min_eq_right (by omega)] at hend
    rw [List.getLast?_eq_getElem?, List.length_cons, Nat.add_sub_cancel]
    exact hend
  have hperm : ((c :: way).map ClassBox.id).Perm (way.map ClassBox.id ++ [c.id]) :=
    (List.perm_append_singleton _ _).symm
  refine ⟨way, hway.isChain, hperm.nodup_iff.mpr (hway.nodup (List.nodup_singleton _)), hclimb,
    hlength, hlast, ?_⟩
  cases hparent : x.parent? (x.root c) with
  | none => exact .inl rfl
  | some parent =>
    exact .inr ⟨parent, rfl, hperm.mem_iff.mpr (hway.id_mem_of_parent?_getLast hlast hparent)⟩

/-- Two classes in a circle, of which one names a second parent, with a class that shares an
identifier and one that shares a name with them, and a class that is its own parent. -/
def circleDiagram : Diagram where
  classes := [.named "a" "A", .named "b" "B", .named "b" "C", .named "d" "A", .named "e" "E"]
  relationships :=
    [.between .generalization "a" "e" [], .between .generalization "a" "b" [],
     .between .generalization "b" "a" [], .between .generalization "e" "e" []]

theorem root_ends_walk_circle :
    ClassBox.named "a" "A" ∈ circleDiagram.classes ∧
      ∃ way : List ClassBox,
        (ClassBox.named "a" "A" :: way).length ≤ 4 ∧
        (ClassBox.named "a" "A" :: way).getLast? = some (.named "b" "B") := by
  have hc : ClassBox.named "a" "A" ∈ circleDiagram.classes := by decide
  obtain ⟨way, -, -, -, hlength, hlast, -⟩ := root_ends_walk circleDiagram hc
  have hroot : (Index.ofDiagram circleDiagram).root (.named "a" "A") = .named "b" "B" := by
    decide +kernel
  have hids : (circleDiagram.classes.map ClassBox.id).dedup.length = 4 := by decide
  rw [hids] at hlength
  rw [hroot] at hlast
  exact ⟨hc, way, hlength, hlast⟩

end Scaffold

import Scaffold.Proofs.Entity.Correspondence

/-!
# Classes that do not see each other

The contexts of a class are made with the whole diagram at hand. Still they say little about other
classes: of most of them only the identifier and the name matter, whatever their attributes and
operations are. There are two exceptions. A class leaves out the fields that its parent declares,
and it is found by the key at the top of its hierarchy.

So let the members of some classes change, but not those of the parent and of the top. The two
diagrams then correspond (`Diagram.SameOutline.corresponds`), which gives everything but these two
classes. They are found by entity name, and a look-up ends at the same position in both diagrams
(`Diagram.SameOutline.findEntity?_eq`). Nothing is asked of the shape of the hierarchy. It may lead
back to a class that was passed, and then the walk ends where it does in the other diagram; and
where classes share a name, only the one that is found is kept from changing.

## Main definitions

* `Diagram.SameOutline`: the same relationships, and classes of the same identifiers and names.
* `Diagram.parentAt?`, `Diagram.rootAt?`: where the parent of a class and the top of its hierarchy
  stand.

## Main results

* `layers_eq_of_sameOutline`: the contexts of a class only depend on its own members, on those of
  these two classes, and on the outline.
-/

namespace Scaffold

/-- Two classes have the same identifier and the same name. -/
def ClassBox.SameHead (b b' : ClassBox) : Prop :=
  (b.id, b.name) = (b'.id, b'.name)

theorem ClassBox.sameHead_refl (b : ClassBox) : b.SameHead b :=
  rfl

namespace Diagram

/-- Two diagrams have the same relationships, and their classes the same identifiers and names in
the same order. The members of the classes may differ. -/
structure SameOutline (d d' : Diagram) : Prop where
  heads : d.classes.map (fun c => (c.id, c.name)) = d'.classes.map fun c => (c.id, c.name)
  relationships : d.relationships = d'.relationships

/-- The position of the class that an entity name finds. -/
def entityAt? (d : Diagram) (entity : String) : Option Nat :=
  d.classes.findIdx? fun c => c.entity == entity

/-- The position of the parent of a class. -/
def parentAt? (d : Diagram) (c : ClassBox) : Option Nat :=
  ((Index.ofDiagram d).parent? c).bind fun parent => d.entityAt? parent.entity

/-- The position of the top of the hierarchy of a class, unless it is the class itself. -/
def rootAt? (d : Diagram) (c : ClassBox) : Option Nat :=
  if (Index.ofDiagram d).root c = c then none
  else d.entityAt? ((Index.ofDiagram d).root c).entity

variable {d d' : Diagram} {c found : ClassBox}

theorem findEntity?_eq_bind (d : Diagram) (entity : String) :
    (Index.ofDiagram d).findEntity? entity = (d.entityAt? entity).bind (d.classes[·]?) := by
  rw [Index.findEntity?_ofDiagram, List.find?_eq_bind_findIdx?_getElem?, entityAt?]

/-! ### Classes that are found

A parent is found by a name that a relationship leads to, so it is what its own name finds. Every
class that a walk comes to is a parent, unless the walk stays where it started. -/

/-- The parent of a class is found by its own entity name. -/
theorem findEntity?_of_parent? (h : (Index.ofDiagram d).parent? c = some found) :
    (Index.ofDiagram d).findEntity? found.entity = some found := by
  obtain ⟨entity, -, hfind⟩ := Option.bind_eq_some_iff.mp h
  rw [(Index.mem_of_findEntity? hfind).2, hfind]

/-- The end of a walk up is where it started, or a class that was not passed and is found by its own
entity name. -/
theorem climb_cases (d : Diagram) (steps : Nat) (passed : List String) (c : ClassBox) :
    let last := (Index.ofDiagram d).climb steps passed c
    last = c ∨ last.id ∉ passed ∧ (Index.ofDiagram d).findEntity? last.entity = some last := by
  induction steps generalizing passed c with
  | zero => exact .inl rfl
  | succ steps ih =>
    rw [Index.climb]
    cases hparent : (Index.ofDiagram d).parent? c with
    | none => exact .inl rfl
    | some parent =>
      dsimp only
      split_ifs with hpassed
      · exact .inl rfl
      · rcases ih (parent.id :: passed) parent with hstay | ⟨hnew, hfind⟩
        · rw [hstay]
          exact .inr ⟨hpassed, findEntity?_of_parent? hparent⟩
        · exact .inr ⟨fun hmem => hnew (List.mem_cons_of_mem _ hmem), hfind⟩

/-- The top of the hierarchy of a class is the class itself, or another one that is found. -/
theorem root_cases (d : Diagram) (c : ClassBox) :
    let top := (Index.ofDiagram d).root c
    top = c ∨ top.id ≠ c.id ∧ (Index.ofDiagram d).findEntity? top.entity = some top := by
  rcases d.climb_cases d.classes.length [c.id] c with hstay | ⟨hnew, hfind⟩
  · exact .inl hstay
  · exact .inr ⟨fun hid => hnew (List.mem_singleton.mpr hid), hfind⟩

/-! ### Diagrams of the same outline -/

namespace SameOutline

theorem corresponds (h : d.SameOutline d') : d.Corresponds ClassBox.SameHead d' where
  classes := by
    have hheads := h.heads
    rwa [← List.forall₂_eq_eq_eq, List.forall₂_map_left_iff, List.forall₂_map_right_iff] at hheads
  relationships := by
    rw [← h.relationships, List.forall₂_same]
    exact fun r _ => r.like_refl
  ids hb := (Prod.mk.inj hb).1
  names hb := by rw [ClassBox.entity, ClassBox.entity, (Prod.mk.inj hb).2]

theorem entityAt?_eq (h : d.SameOutline d') (entity : String) :
    d.entityAt? entity = d'.entityAt? entity := by
  have hposition : ∀ d : Diagram, d.entityAt? entity =
      (d.classes.map fun c => (c.id, c.name)).findIdx?
        fun head => Naming.entityName head.2 == entity := by
    intro d
    rw [List.findIdx?_map]
    rfl
  rw [hposition, hposition, h.heads]

/-- If the position that a class is found at is the same in both diagrams, then it is found in
both. -/
theorem findEntity?_eq (h : d.SameOutline d')
    (hfind : (Index.ofDiagram d).findEntity? found.entity = some found)
    (hsame : ∀ i, d.entityAt? found.entity = some i → d.classes[i]? = d'.classes[i]?) :
    (Index.ofDiagram d').findEntity? found.entity = some found := by
  rw [findEntity?_eq_bind] at hfind ⊢
  obtain ⟨i, hposition, hi⟩ := Option.bind_eq_some_iff.mp hfind
  rw [← h.entityAt?_eq found.entity, hposition, Option.bind_some, ← hsame i hposition, hi]

/-- The parents of a class agree if the position of the first is the same in both diagrams. -/
theorem parent?_eq (h : d.SameOutline d')
    (hsame : ∀ i, d.parentAt? c = some i → d.classes[i]? = d'.classes[i]?) :
    (Index.ofDiagram d).parent? c = (Index.ofDiagram d').parent? c := by
  have hmatches := h.corresponds.index_matches
  rcases option_rel_cases (hmatches.parent?_rel c.sameHead_refl) with
    ⟨hnone, hnone'⟩ | ⟨p, p', hp, hp', hheads⟩
  · rw [hnone, hnone']
  · have hfind : (Index.ofDiagram d').findEntity? p.entity = some p :=
      h.findEntity?_eq (findEntity?_of_parent? hp) fun i hi =>
        hsame i (by rw [parentAt?, hp, Option.bind_some, hi])
    have hfind' := findEntity?_of_parent? hp'
    rw [← hmatches.names hheads, hfind] at hfind'
    rw [hp, hp', hfind']

/-- The tops of a hierarchy agree if the position of the first is the same in both diagrams. -/
theorem root_eq (h : d.SameOutline d')
    (hsame : ∀ i, d.rootAt? c = some i → d.classes[i]? = d'.classes[i]?) :
    (Index.ofDiagram d).root c = (Index.ofDiagram d').root c := by
  have hmatches := h.corresponds.index_matches
  have hheads := hmatches.root_rel c.sameHead_refl
  rcases d.root_cases c with hself | ⟨hother, hfind⟩
  · -- the identifier tells a walk that stayed from one that did not
    rcases d'.root_cases c with hself' | ⟨hother', -⟩
    · rw [hself, hself']
    · rw [hself] at hheads
      exact absurd (hmatches.ids hheads).symm hother'
  · rcases d'.root_cases c with hself' | ⟨-, hfind'⟩
    · rw [hself'] at hheads
      exact absurd (hmatches.ids hheads) hother
    · have hne : (Index.ofDiagram d).root c ≠ c := fun hself => hother (by rw [hself])
      have hfound := h.findEntity?_eq hfind fun i hi => hsame i (by rw [rootAt?, if_neg hne, hi])
      rw [hmatches.names hheads, hfind'] at hfound
      exact (Option.some.inj hfound).symm

end SameOutline

end Diagram

/-- **Classes do not see the members of others.** Let two diagrams have the same outline, and let
their classes only differ where neither the parent of a class is nor the top of its hierarchy. Then
the class has the same contexts in both. -/
theorem layers_eq_of_sameOutline {d d' : Diagram} (h : d.SameOutline d') {c : ClassBox}
    (hdiffer : ∀ i : Nat, d.classes[i]? ≠ d'.classes[i]? →
      d.parentAt? c ≠ some i ∧ d.rootAt? c ≠ some i) (basePackage : String) :
    (Index.ofDiagram d).layers basePackage c = (Index.ofDiagram d').layers basePackage c := by
  have hmatches := h.corresponds.index_matches
  have hproperties : (Index.ofDiagram d).properties = (Index.ofDiagram d').properties := by
    funext b
    rw [Index.properties, Index.properties, hmatches.isEntity_eq]
  have hparent := h.parent?_eq (c := c) fun i hi => not_imp_comm.mp (hdiffer i) fun hat => hat.1 hi
  have hroot := h.root_eq (c := c) fun i hi => not_imp_comm.mp (hdiffer i) fun hat => hat.2 hi
  refine hmatches.layers_eq c.sameHead_refl (by rw [hproperties]) (by rw [hmatches.isEntity_eq])
    ?_ ?_ basePackage
  · rw [hparent, hproperties]
    cases (Index.ofDiagram d').parent? c with
    | none => exact .none
    | some p => exact .some rfl
  · rw [hroot, Index.ownKey, Index.ownKey, hproperties]

/-- A car below a vehicle below a thing, with an engine, and a second class named vehicle that no
look-up finds. The engine and the second vehicle are drafts. -/
def garage (finish : ClassBox → ClassBox) : Diagram where
  classes :=
    [(ClassBox.named "t" "Thing").addAttribute "serial" "int",
     (ClassBox.named "v" "Vehicle").addAttribute "maker" "string",
     finish (ClassBox.named "e" "Engine"),
     ((ClassBox.named "c" "Car").addAttribute "maker" "text").addAttribute "spare" "engine",
     finish (ClassBox.named "w" " vehicle")]
  relationships :=
    [.between .generalization "c" "v" [], .between .generalization "v" "t" [],
     .between .association "c" "e" ["1", "1..*"]]

theorem layers_eq_of_sameOutline_garage :
    let draft := garage id
    let finished := garage fun c => (c.addAttribute "maker" "long").addMethod "start" none ""
    ∃ car ∈ draft.classes, draft.SameOutline finished ∧ draft ≠ finished ∧
      draft.parentAt? car = some 1 ∧ draft.rootAt? car = some 0 ∧
      (Index.ofDiagram draft).layers "com.example" car =
        (Index.ofDiagram finished).layers "com.example" car := by
  intro draft finished
  let car := ((ClassBox.named "c" "Car").addAttribute "maker" "text").addAttribute "spare" "engine"
  have houtline : draft.SameOutline finished := ⟨by decide +kernel, by decide +kernel⟩
  have hparent : draft.parentAt? car = some 1 := by decide +kernel
  have hroot : draft.rootAt? car = some 0 := by decide +kernel
  refine ⟨car, by decide +kernel, houtline, by decide +kernel, hparent, hroot,
    layers_eq_of_sameOutline houtline (fun i hi => ⟨fun hat => hi ?_, fun hat => hi ?_⟩) _⟩
  · obtain rfl := Option.some.inj (hparent ▸ hat)
    rfl
  · obtain rfl := Option.some.inj (hroot ▸ hat)
    rfl

end Scaffold

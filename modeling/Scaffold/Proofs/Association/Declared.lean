import Scaffold.Proofs.Association.Inverse
import Scaffold.Proofs.Entity.Hierarchy

/-!
# Relations as they are declared

One pass over the relationships fills all four lists of relations of a class, from both ends and
with several reasons to pass a relationship over. Here is what the lists hold, each on its own and
without a pass: a relationship gives the class an entry of a sort under a condition that only
mentions that relationship, and the list of that sort holds the given entries in the order in which
the relationships are declared, none of them left out and none put in twice.

The conditions are about the classes of the diagram and the labels as they are written, so a look-up
that fails, a missing label and an end that is the class itself need no case of their own. They
leave no choice of the entry, and so a description of this form is met by one list only.

## Main definitions

* `Gathers`: a list holds what the elements of another list give, in their order.
* `Diagram.Associates`: a relationship gives relations to the classes at its ends.
* `Relations.AsDeclared`: the parent and the relations that a diagram declares for a class.

## Main results

* `relations_eq_iff_asDeclared`: the relations of a class are those that are declared for it, and
  nothing else is.
-/

namespace Scaffold

/-! ### What the elements of a list give -/

/-- The second list holds what the elements of the first give, in their order. An element gives one
thing, or nothing and is passed over. -/
inductive Gathers {α β : Type} (gives : α → β → Prop) : List α → List β → Prop
  | nil : Gathers gives [] []
  | give {a : α} {b : β} {as : List α} {bs : List β} :
      gives a b → Gathers gives as bs → Gathers gives (a :: as) (b :: bs)
  | pass {a : α} {as : List α} {bs : List β} :
      (∀ b, ¬ gives a b) → Gathers gives as bs → Gathers gives (a :: as) bs

namespace Gathers

variable {α β : Type} {gives : α → β → Prop}

/-- What is gathered is determined if no element gives two things. -/
theorem unique (hgives : ∀ {a b b'}, gives a b → gives a b' → b = b') {as : List α}
    {bs bs' : List β} (h : Gathers gives as bs) (h' : Gathers gives as bs') : bs = bs' := by
  induction h generalizing bs' with
  | nil =>
    cases h'
    rfl
  | give hb _ ih =>
    cases h' with
    | give hb' hrest => rw [hgives hb hb', ih hrest]
    | pass hnone _ => exact absurd hb (hnone _)
  | pass hnone _ ih =>
    cases h' with
    | give hb' _ => exact absurd hb' (hnone _)
    | pass _ hrest => exact ih hrest

/-- Lists of at most one element, put together, gather what the elements give. -/
theorem flatMap {f : α → List β}
    (h : ∀ a, (∃ b, gives a b ∧ f a = [b]) ∨ (∀ b, ¬ gives a b) ∧ f a = []) (as : List α) :
    Gathers gives as (as.flatMap f) := by
  induction as with
  | nil => exact .nil
  | cons a as ih =>
    rw [List.flatMap_cons]
    rcases h a with ⟨b, hb, hf⟩ | ⟨hnone, hf⟩ <;> rw [hf]
    · exact .give hb ih
    · exact .pass hnone ih

end Gathers

/-! ### What a relationship declares -/

namespace Relationship

/-- The end of a relationship that a label stands at is many: there is a label, and it holds a
star. -/
def IsManyAt (r : Relationship) (position : Nat) : Prop :=
  ∃ label, r.labels[position]? = some label ∧ '*' ∈ label.toList

/-- The source of a relationship is many. -/
def SourceIsMany (r : Relationship) : Prop := r.IsManyAt 0

/-- The target of a relationship is many. -/
def TargetIsMany (r : Relationship) : Prop := r.IsManyAt 1

theorem any_isMany_iff {r : Relationship} {position : Nat} :
    r.labels[position]?.any Multiplicity.isMany = true ↔ r.IsManyAt position := by
  rw [IsManyAt]
  cases r.labels[position]? <;> simp [Multiplicity.isMany]

theorem sourceIsMany_iff {r : Relationship} :
    (Multiplicity.ofLabels r.labels).sourceIsMany = true ↔ r.SourceIsMany :=
  any_isMany_iff

theorem targetIsMany_iff {r : Relationship} :
    (Multiplicity.ofLabels r.labels).targetIsMany = true ↔ r.TargetIsMany :=
  any_isMany_iff

theorem ofLabels_eq_iff {r : Relationship} {sourceIsMany targetIsMany : Bool} :
    Multiplicity.ofLabels r.labels = ⟨sourceIsMany, targetIsMany⟩ ↔
      (r.SourceIsMany ↔ sourceIsMany = true) ∧ (r.TargetIsMany ↔ targetIsMany = true) := by
  rw [← sourceIsMany_iff, ← targetIsMany_iff, ← Bool.eq_iff_iff, ← Bool.eq_iff_iff]
  obtain ⟨source, target⟩ := Multiplicity.ofLabels r.labels
  rw [Multiplicity.mk.injEq]

end Relationship

theorem RelationshipKind.isPersistent_iff {kind : RelationshipKind} :
    kind.isPersistent = true ↔ kind ∈ [.association, .aggregation, .composition] := by
  cases kind <;> simp [isPersistent]

/-- A relationship associates two classes of a diagram, which may be the same, if it leads from one
to the other and is of a kind that gives relations. -/
structure Diagram.Associates (d : Diagram) (r : Relationship) (source target : ClassBox) :
    Prop where
  structural : r.kind ∈ [.association, .aggregation, .composition]
  source_mem : source ∈ d.classes
  source_id : source.id = r.sourceId
  target_mem : target ∈ d.classes
  target_id : target.id = r.targetId

/-- The parent and the relations that a diagram declares for a class. The parent is the class that
the last generalization of the class leads to. The lists hold one entry for each of the
relationships that associate the class with another in the right role, with the ends that are many
as their sort asks for. -/
structure Relations.AsDeclared (found : Relations) (d : Diagram) (focal : ClassBox) : Prop where
  parent : ∀ name, found.parentEntity = some name ↔
    ∃ parent, d.Extends focal parent ∧ parent.entity = name
  oneToOne : Gathers
    (fun r entry => ∃ target, d.Associates r focal target ∧ ¬ r.SourceIsMany ∧ ¬ r.TargetIsMany ∧
      entry = OneToOne.toEntity target.entity)
    d.relationships found.oneToOne
  oneToMany : Gathers
    (fun r entry => ∃ target, d.Associates r focal target ∧ ¬ r.SourceIsMany ∧ r.TargetIsMany ∧
      entry = OneToMany.between focal.entity target.entity)
    d.relationships found.oneToMany
  manyToMany : Gathers
    (fun r entry => ∃ target, d.Associates r focal target ∧ r.SourceIsMany ∧ r.TargetIsMany ∧
      entry = ManyToMany.between focal.entity target.entity)
    d.relationships found.manyToMany
  manyToOne : Gathers
    (fun r entry => ∃ source, d.Associates r source focal ∧ r.TargetIsMany ∧
      entry = ManyToOne.toEntity source.entity)
    d.relationships found.manyToOne

namespace Diagram.DistinctIds

variable {d : Diagram} {focal source target : ClassBox} {r : Relationship}

/-- A relationship associates the classes that are found at its ends. -/
theorem associates_iff (h : d.DistinctIds) :
    d.Associates r source target ↔
      (Index.ofDiagram d).ends r = some (source, target) ∧ r.kind.isPersistent = true := by
  rw [h.ends_eq_some_iff, RelationshipKind.isPersistent_iff]
  exact ⟨fun ⟨hkind, hs, hsid, ht, htid⟩ => ⟨⟨⟨hs, hsid⟩, ht, htid⟩, hkind⟩,
    fun ⟨⟨⟨hs, hsid⟩, ht, htid⟩, hkind⟩ => ⟨hkind, hs, hsid, ht, htid⟩⟩

/-- A relationship associates one pair of classes only. -/
theorem associates_unique (h : d.DistinctIds) {source' target' : ClassBox}
    (hr : d.Associates r source target) (hr' : d.Associates r source' target') :
    source = source' ∧ target = target' := by
  have hends := (h.associates_iff.mp hr).1.symm.trans (h.associates_iff.mp hr').1
  exact Prod.mk.inj (Option.some.inj hends)

/-! ### What the pass gathers -/

/-- A sort of relations that a class has as the source of relationships with certain ends that are
many. -/
theorem gathers_atSource (h : d.DistinctIds) (hfocal : focal ∈ d.classes) {β : Type}
    (bucket : Relations → List β) (entry : String → String → β) (m : Multiplicity)
    (happend : ∀ a b : Relations, bucket (a.append b) = bucket a ++ bucket b)
    (hbelow : ∀ parent, bucket (.below parent) = [])
    (hgiven : ∀ {r source target}, (Index.ofDiagram d).ends r = some (source, target) →
      bucket ((Index.ofDiagram d).given focal r) =
        if r.kind.isPersistent ∧ source.id = focal.id ∧ Multiplicity.ofLabels r.labels = m then
          [entry source.entity target.entity]
        else []) :
    Gathers
      (fun r b => ∃ target, d.Associates r focal target ∧
        (r.SourceIsMany ↔ m.sourceIsMany = true) ∧ (r.TargetIsMany ↔ m.targetIsMany = true) ∧
        b = entry focal.entity target.entity)
      d.relationships (bucket ((Index.ofDiagram d).relations focal)) := by
  rw [Index.relations_bucket happend hbelow]
  refine .flatMap (fun r => ?_) _
  cases hends : (Index.ofDiagram d).ends r with
  | none =>
    refine .inr ⟨fun b ⟨target, hr, _⟩ => ?_, by rw [Index.given_of_ends_eq_none hends, hbelow]⟩
    cases hends.symm.trans (h.associates_iff.mp hr).1
  | some pair =>
    obtain ⟨source, target⟩ := pair
    rw [hgiven hends]
    split_ifs with hcounts
    · obtain ⟨hkind, hid, hm⟩ := hcounts
      have hr : d.Associates r source target := h.associates_iff.mpr ⟨hends, hkind⟩
      obtain rfl := (h.id_eq_iff hr.source_mem hfocal).mp hid
      obtain ⟨hsource, htarget⟩ := Relationship.ofLabels_eq_iff.mp hm
      exact .inl ⟨_, ⟨target, hr, hsource, htarget, rfl⟩, rfl⟩
    · refine .inr ⟨fun b ⟨target', hr, hsource, htarget, _⟩ => hcounts ?_, rfl⟩
      obtain ⟨hends', hkind⟩ := h.associates_iff.mp hr
      obtain ⟨rfl, rfl⟩ := Prod.mk.inj (Option.some.inj (hends.symm.trans hends'))
      exact ⟨hkind, rfl, Relationship.ofLabels_eq_iff.mpr ⟨hsource, htarget⟩⟩

/-- The references back that a class has as the target of relationships. -/
theorem gathers_atTarget (h : d.DistinctIds) (hfocal : focal ∈ d.classes) :
    Gathers
      (fun r entry => ∃ source, d.Associates r source focal ∧ r.TargetIsMany ∧
        entry = ManyToOne.toEntity source.entity)
      d.relationships ((Index.ofDiagram d).relations focal).manyToOne := by
  rw [Index.relations_manyToOne]
  refine .flatMap (fun r => ?_) _
  cases hends : (Index.ofDiagram d).ends r with
  | none =>
    refine .inr ⟨fun b ⟨source, hr, _⟩ => ?_, by rw [Index.given_of_ends_eq_none hends]; rfl⟩
    cases hends.symm.trans (h.associates_iff.mp hr).1
  | some pair =>
    obtain ⟨source, target⟩ := pair
    rw [Index.given_manyToOne hends]
    split_ifs with hcounts
    · obtain ⟨hkind, hid, hmany⟩ := hcounts
      have hr : d.Associates r source target := h.associates_iff.mpr ⟨hends, hkind⟩
      obtain rfl := (h.id_eq_iff hr.target_mem hfocal).mp hid
      exact .inl ⟨_, ⟨source, hr, Relationship.targetIsMany_iff.mp hmany, rfl⟩, rfl⟩
    · refine .inr ⟨fun b ⟨source', hr, hmany, _⟩ => hcounts ?_, rfl⟩
      obtain ⟨hends', hkind⟩ := h.associates_iff.mp hr
      obtain ⟨rfl, rfl⟩ := Prod.mk.inj (Option.some.inj (hends.symm.trans hends'))
      exact ⟨hkind, rfl, Relationship.targetIsMany_iff.mpr hmany⟩

theorem relations_asDeclared (h : d.DistinctIds) (hfocal : focal ∈ d.classes) :
    ((Index.ofDiagram d).relations focal).AsDeclared d focal where
  parent name := by
    rw [Index.relations_parentEntity]
    exact h.parentEntity_eq_some_iff hfocal
  oneToOne := by
    simpa using h.gathers_atSource hfocal Relations.oneToOne (fun _ target => .toEntity target)
      ⟨false, false⟩ (fun _ _ => rfl) (fun _ => rfl) Index.given_oneToOne
  oneToMany := by
    simpa using h.gathers_atSource hfocal Relations.oneToMany .between ⟨false, true⟩
      (fun _ _ => rfl) (fun _ => rfl) Index.given_oneToMany
  manyToMany := by
    simpa using h.gathers_atSource hfocal Relations.manyToMany .between ⟨true, true⟩
      (fun _ _ => rfl) (fun _ => rfl) Index.given_manyToMany
  manyToOne := h.gathers_atTarget hfocal

/-- A diagram declares only one list of each sort for a class. -/
theorem asDeclared_unique (h : d.DistinctIds) {found found' : Relations}
    (hfound : found.AsDeclared d focal) (hfound' : found'.AsDeclared d focal) :
    found = found' := by
  have hsource : ∀ {r : Relationship} {a b : ClassBox}, d.Associates r focal a →
      d.Associates r focal b → a = b := fun ha hb => (h.associates_unique ha hb).2
  have htarget : ∀ {r : Relationship} {a b : ClassBox}, d.Associates r a focal →
      d.Associates r b focal → a = b := fun ha hb => (h.associates_unique ha hb).1
  have hparent : found.parentEntity = found'.parentEntity :=
    Option.ext fun name => (hfound.parent name).trans (hfound'.parent name).symm
  have honeToOne : found.oneToOne = found'.oneToOne := by
    refine Gathers.unique ?_ hfound.oneToOne hfound'.oneToOne
    rintro r b b' ⟨a, ha, -, -, rfl⟩ ⟨a', ha', -, -, rfl⟩
    rw [hsource ha ha']
  have honeToMany : found.oneToMany = found'.oneToMany := by
    refine Gathers.unique ?_ hfound.oneToMany hfound'.oneToMany
    rintro r b b' ⟨a, ha, -, -, rfl⟩ ⟨a', ha', -, -, rfl⟩
    rw [hsource ha ha']
  have hmanyToMany : found.manyToMany = found'.manyToMany := by
    refine Gathers.unique ?_ hfound.manyToMany hfound'.manyToMany
    rintro r b b' ⟨a, ha, -, -, rfl⟩ ⟨a', ha', -, -, rfl⟩
    rw [hsource ha ha']
  have hmanyToOne : found.manyToOne = found'.manyToOne := by
    refine Gathers.unique ?_ hfound.manyToOne hfound'.manyToOne
    rintro r b b' ⟨a, ha, -, rfl⟩ ⟨a', ha', -, rfl⟩
    rw [htarget ha ha']
  cases found
  cases found'
  simp_all

end Diagram.DistinctIds

/-- **The relations of a class are those that are declared for it.** In a diagram whose classes have
different identifiers, what the pass over the relationships finds for a class is as declared, and
nothing else is: the parent is named by the last generalization of the class that leads to a class,
and each list holds, in the order of the relationships and without leaving any out, the entries of
those that associate the class in the role of that list. -/
theorem relations_eq_iff_asDeclared {d : Diagram} (h : d.DistinctIds) {focal : ClassBox}
    (hfocal : focal ∈ d.classes) (found : Relations) :
    found = (Index.ofDiagram d).relations focal ↔ found.AsDeclared d focal := by
  constructor
  · rintro rfl
    exact h.relations_asDeclared hfocal
  · intro hfound
    exact h.asDeclared_unique hfound (h.relations_asDeclared hfocal)

/-- A class with two generalizations that count and one that does not, and with associations of
every sort: some repeated, one with itself, one without labels, one whose kind gives nothing, and
one that leads nowhere. -/
def branchesDiagram : Diagram where
  classes := [.named "b" "branch", .named "s" "shop", .named "p" "Place"]
  relationships :=
    [.between .generalization "b" "s" [], .between .association "b" "s" ["1", "0..*"],
     .between (.unsupported "uses") "b" "s" ["1", "*"], .between .association "b" "b" ["*", "*"],
     .between .composition "b" "s" ["1", "0..*"], .between .aggregation "s" "b" ["*", "1..*"],
     .between .generalization "b" "p" [], .between .association "b" "gone" [],
     .between .association "b" "p" [], .between .association "b" "p" ["*"],
     .between .generalization "b" "gone" []]

theorem relations_eq_iff_asDeclared_branches :
    branchesDiagram.DistinctIds ∧ ClassBox.named "b" "branch" ∈ branchesDiagram.classes ∧
      Relations.AsDeclared
        { parentEntity := some "Place"
          oneToOne := [.toEntity "Place"]
          oneToMany := [.between "Branch" "Shop", .between "Branch" "Shop"]
          manyToOne := [.toEntity "Branch", .toEntity "Shop"]
          manyToMany := [.between "Branch" "Branch"] }
        branchesDiagram (.named "b" "branch") := by
  have h : branchesDiagram.DistinctIds := by decide
  have hfocal : ClassBox.named "b" "branch" ∈ branchesDiagram.classes := by decide
  exact ⟨h, hfocal, (relations_eq_iff_asDeclared h hfocal _).mp (by decide +kernel)⟩

end Scaffold

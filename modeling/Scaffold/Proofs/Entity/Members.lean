import Scaffold.Proofs.Entity.SharedKey

/-!
# What becomes of the attributes of a class

The attributes of a class become properties, one by one and in order. Two things can happen to that
list on its way into the entity, and never both. A class with a parent leaves properties out: those
whose names the parent declares. A class without one changes a property: the first whose type is
that of a key takes the form of the key, in its place.

What an entity says about its key comes from the same choice: from the properties of the class
itself if it has no parent, and from those of the top of its hierarchy if it has one. Names play no
part in it, so the key is found in its place also where several properties share a name.

## Main definitions

* `KeyForm`: the forms that properties take as keys.
* `KeyMarked`: a list of properties with its key marked, and what is said about the key.

## Main results

* `keyMarked_iff`: the key is the first property with a type of a key.
* `properties_and_key_iff`: the properties of an entity, and its key.
-/

namespace Scaffold

/-! ### Forms of keys -/

/-- The written types of properties that can be keys. -/
def keyTypes : List String :=
  ["int", "long", "String", "char"]

/-- A property of a type takes another type as key, and is then generated or not: a whole number is,
a text or a character is not. -/
inductive KeyForm : (type keyType : String) → (generated : Bool) → Prop
  | number {type : String} (h : type = "int" ∨ type = "long") : KeyForm type "Long" true
  | text {type : String} (h : type = "String" ∨ type = "char") : KeyForm type "String" false

theorem holdsInteger_iff {type : String} :
    holdsInteger type = true ↔ type = "int" ∨ type = "long" := by
  simp [holdsInteger, KnownType.text]

theorem holdsText_iff {type : String} :
    holdsText type = true ↔ type = "String" ∨ type = "char" := by
  simp [holdsText, KnownType.text]

theorem keyForm?_eq_some_iff {type keyType : String} {generated : Bool} :
    keyForm? type = some (keyType, generated) ↔ KeyForm type keyType generated := by
  rw [keyForm?]
  constructor
  · intro h
    split_ifs at h with hinteger htext <;> cases h
    · exact .number (holdsInteger_iff.mp hinteger)
    · exact .text (holdsText_iff.mp htext)
  · rintro (h | h)
    · rw [if_pos (holdsInteger_iff.mpr h)]
      rfl
    · have hinteger : ¬ holdsInteger type = true := by
        rw [holdsInteger_iff]
        rcases h with rfl | rfl <;> decide
      rw [if_neg hinteger, if_pos (holdsText_iff.mpr h)]
      rfl

theorem keyForm?_eq_none_iff {type : String} : keyForm? type = none ↔ type ∉ keyTypes := by
  rw [keyForm?, keyTypes]
  split_ifs with hinteger htext
  · rcases holdsInteger_iff.mp hinteger with rfl | rfl <;> simp
  · rcases holdsText_iff.mp htext with rfl | rfl <;> simp
  · rw [holdsInteger_iff] at hinteger
    rw [holdsText_iff] at htext
    simp only [List.mem_cons, List.not_mem_nil, or_false, true_iff]
    tauto

/-! ### Marking the key -/

/-- A list of properties with its key marked, and what an entity says about the key. The first
property with a type of a key keeps its name and takes the form of the key; all others stay as they
are. Without such a property nothing changes, and there is no key. -/
inductive KeyMarked (inherited : Bool) : (ps marked : List Property) → Option PrimaryKey → Prop
  | none {ps : List Property} (h : ∀ p ∈ ps, p.type ∉ keyTypes) : KeyMarked inherited ps ps none
  | first {before after : List Property} {p : Property} {type : String} {generated : Bool}
      (hbefore : ∀ q ∈ before, q.type ∉ keyTypes) (hp : KeyForm p.type type generated) :
      KeyMarked inherited (before ++ p :: after)
        (before ++ ⟨p.name, type, true, some generated⟩ :: after)
        (some ⟨p.name, type, Naming.setter p.name, generated, inherited⟩)

/-- A list of properties with its own key marked. -/
def markKey (ps : List Property) : List Property :=
  match chooseKey ps with
  | none => ps
  | some key => key.mark ps

theorem chooseKeyFrom_append {before rest : List Property}
    (h : ∀ q ∈ before, keyForm? q.type = none) (index : Nat) :
    chooseKeyFrom index (before ++ rest) = chooseKeyFrom (index + before.length) rest := by
  induction before generalizing index with
  | nil => rfl
  | cons q before ih =>
    rw [List.forall_mem_cons] at h
    rw [List.cons_append, chooseKeyFrom, h.1]
    dsimp only
    rw [ih h.2, List.length_cons, Nat.add_right_comm, Nat.add_assoc]

theorem chooseKey_append_cons {before after : List Property} {p : Property} {type : String}
    {generated : Bool} (hbefore : ∀ q ∈ before, keyForm? q.type = none)
    (hp : keyForm? p.type = some (type, generated)) :
    chooseKey (before ++ p :: after) = some ⟨before.length, p.name, type, generated⟩ := by
  rw [chooseKey, chooseKeyFrom_append hbefore, Nat.zero_add, chooseKeyFrom, hp]

/-- The key that is chosen and marked is the first property with a type of a key. -/
theorem keyMarked_iff {inherited : Bool} {ps marked : List Property} {key : Option PrimaryKey} :
    KeyMarked inherited ps marked key ↔
      markKey ps = marked ∧ (chooseKey ps).map (KeyChoice.toPrimaryKey · inherited) = key := by
  constructor
  · rintro (h | ⟨hbefore, hp⟩)
    · have hnone : chooseKey ps = none :=
        chooseKeyFrom_eq_none_iff.mpr fun p hp => keyForm?_eq_none_iff.mpr (h p hp)
      simp [markKey, hnone]
    · rename_i before after p type generated
      have hchoose : chooseKey (before ++ p :: after) =
          some ⟨before.length, p.name, type, generated⟩ :=
        chooseKey_append_cons (fun q hq => keyForm?_eq_none_iff.mpr (hbefore q hq))
          (keyForm?_eq_some_iff.mpr hp)
      rw [markKey, hchoose]
      exact ⟨KeyChoice.mark_append_cons rfl rfl, rfl⟩
  · rintro ⟨rfl, rfl⟩
    cases hchoose : chooseKey ps with
    | none =>
      rw [markKey, hchoose]
      refine .none fun p hp => keyForm?_eq_none_iff.mp ?_
      exact chooseKeyFrom_eq_none_iff.mp hchoose p hp
    | some key =>
      obtain ⟨before, p, after, rfl, hindex, hname, hp, hbefore⟩ := chooseKeyFrom_eq_some hchoose
      rw [Nat.zero_add] at hindex
      rw [markKey, hchoose]
      dsimp only [Option.map_some]
      rw [KeyChoice.mark_append_cons hindex hname, KeyChoice.toProperty, KeyChoice.toPrimaryKey,
        hname]
      exact .first (fun q hq => keyForm?_eq_none_iff.mp (hbefore q hq))
        (keyForm?_eq_some_iff.mp hp)

-- the second of two properties of one name becomes the key, because the first has no type of a key
example :
    markKey [⟨"id", "double", false, none⟩, ⟨"id", "long", false, none⟩,
        ⟨"code", "String", false, none⟩] =
      [⟨"id", "double", false, none⟩, ⟨"id", "Long", true, some true⟩,
        ⟨"code", "String", false, none⟩] := by
  decide

/-! ### Entities -/

/-- The names of the fields that the attributes of a class stand for. -/
def ClassBox.fieldNames (c : ClassBox) : List String :=
  c.attributes.map fun a => Naming.fieldName a.name

namespace Index

variable {x : Index} {c parent : ClassBox}

theorem keyedProperties_eq (x : Index) (c : ClassBox) :
    x.keyedProperties c = markKey (x.properties c) :=
  rfl

theorem map_name_properties (x : Index) (c : ClassBox) :
    (x.properties c).map Property.name = c.fieldNames := by
  rw [properties, List.map_map]
  rfl

/-- Below a parent, the entity has the properties that the parent does not name. -/
theorem properties_entityLayer_of_parent (hparent : x.parent? c = some parent)
    (basePackage : String) :
    (x.entityLayer basePackage c).properties =
      (x.properties c).filter fun p => p.name ∉ parent.fieldNames := by
  simp only [entityLayer, declaredProperties, hparent, withoutInherited, map_name_properties]

/-- Below a parent, the key is that of the top. -/
theorem key_entityLayer_of_parent (hparent : x.parent? c = some parent) (basePackage : String)
    (key : Option PrimaryKey) :
    (x.entityLayer basePackage c).key = key ↔
      ∃ marked, KeyMarked true (x.properties (x.root c)) marked key := by
  simp only [entityLayer, Index.key, hparent, keyMarked_iff, exists_eq_left', ownKey]

/-- Without a parent, the entity has all properties, and the key among them is marked. -/
theorem members_entityLayer_of_top (hparent : x.parent? c = none) (basePackage : String)
    (ps : List Property) (key : Option PrimaryKey) :
    (x.entityLayer basePackage c).properties = ps ∧ (x.entityLayer basePackage c).key = key ↔
      KeyMarked false (x.properties c) ps key := by
  simp only [entityLayer, Index.key, declaredProperties, hparent, keyMarked_iff,
    keyedProperties_eq, ownKey]

end Index

/-- **What becomes of the attributes of a class.** They become properties, in order. If the class
has a parent, its entity keeps those whose names are no field names of the parent, as they are and
without a key among them, and its key is the one that the properties of the top of the hierarchy
have, as an inherited one. If it has none, the entity has all of them, where the first with a type
of a key takes the form of the key, and that is its key; without such a property nothing changes and
there is no key. -/
theorem properties_and_key_iff (d : Diagram) (basePackage : String) (c : ClassBox) :
    let x := Index.ofDiagram d
    let entity := x.entityLayer basePackage c
    let own (b : ClassBox) : List Property := b.attributes.map fun a =>
      ⟨Naming.fieldName a.name, attributeType x.isEntity a.tag, false, none⟩
    (∃ parent, x.parent? c = some parent ∧
      entity.properties = (own c).filter (fun p => p.name ∉ parent.fieldNames) ∧
      (∀ p ∈ entity.properties, p.isKey = false) ∧
      ∀ key, entity.key = key ↔ ∃ marked, KeyMarked true (own (x.root c)) marked key) ∨
    x.parent? c = none ∧
      ∀ ps key, entity.properties = ps ∧ entity.key = key ↔ KeyMarked false (own c) ps key := by
  intro x entity own
  cases hparent : x.parent? c with
  | some parent =>
    have hproperties := x.properties_entityLayer_of_parent hparent basePackage
    refine .inl ⟨parent, rfl, hproperties, fun p hp => ?_,
      x.key_entityLayer_of_parent hparent basePackage⟩
    rw [hproperties] at hp
    exact Index.isKey_of_mem_properties (List.mem_of_mem_filter hp)
  | none => exact .inr ⟨rfl, x.members_entityLayer_of_top hparent basePackage⟩

end Scaffold

import Scaffold.Proofs.Entity.SharedKey

/-!
# Fields of ancestors

A class leaves out the fields that its parent declares. It looks no further: a field that a more
distant ancestor declares is left out only if the parent declares it again, whatever the classes
in between did. So a hierarchy of two classes never repeats a field, and in a deeper one a field can
come back behind a class that does not declare it. The key is no exception, although a class below
the top is found by the key of the top.

## Main definitions

* `Index.Declares`: a class declares a field, under the name that the field has in the entity.
* `Index.Keeps`: the entity of a class has a field among its properties.

## Main results

* `Diagram.Unambiguous.keeps_iff`: what is left of the fields of a class.
* `ancestorField_kept_iff`: when a field of an ancestor is repeated.
-/

namespace Scaffold

open Relation (TransGen)

namespace Index

/-- A class declares a field of a name. -/
def Declares (x : Index) (c : ClassBox) (name : String) : Prop :=
  ∃ p ∈ x.properties c, p.name = name

/-- The entity of a class has a field of a name among its properties. -/
def Keeps (x : Index) (basePackage : String) (c : ClassBox) (name : String) : Prop :=
  ∃ p ∈ (x.entityLayer basePackage c).properties, p.name = name

instance (x : Index) (c : ClassBox) (name : String) : Decidable (x.Declares c name) :=
  inferInstanceAs (Decidable (∃ p ∈ x.properties c, p.name = name))

instance (x : Index) (basePackage : String) (c : ClassBox) (name : String) :
    Decidable (x.Keeps basePackage c name) :=
  inferInstanceAs (Decidable (∃ p ∈ (x.entityLayer basePackage c).properties, p.name = name))

/-- A key is named for a field that its class declares. -/
theorem declares_of_ownKey {x : Index} {c : ClassBox} {key : KeyChoice}
    (h : x.ownKey c = some key) : x.Declares c key.name := by
  obtain ⟨before, p, after, hproperties, -, hname, -⟩ := chooseKeyFrom_eq_some h
  exact ⟨p, by simp [hproperties], hname.symm⟩

end Index

namespace Diagram.Unambiguous

variable {d : Diagram} {c parent top : ClassBox}

/-- Below a parent, what is left of the fields of a class is what the parent does not declare. -/
theorem keeps_iff (h : d.Unambiguous) (basePackage : String) (hext : d.Extends c parent)
    (name : String) :
    (Index.ofDiagram d).Keeps basePackage c name ↔
      (Index.ofDiagram d).Declares c name ∧ ¬ (Index.ofDiagram d).Declares parent name := by
  have hparent := (h.parent?_eq_some_iff hext.1).mpr hext
  have hleft : ((Index.ofDiagram d).entityLayer basePackage c).properties =
      ((Index.ofDiagram d).properties c).filter fun p =>
        decide (p.name ∉ ((Index.ofDiagram d).properties parent).map Property.name) := by
    simp only [Index.entityLayer, Index.declaredProperties, hparent, withoutInherited]
  rw [Index.Keeps, hleft, Index.Declares, Index.Declares]
  constructor
  · rintro ⟨p, hp, rfl⟩
    obtain ⟨hmem, hnot⟩ := List.mem_filter.mp hp
    exact ⟨⟨p, hmem, rfl⟩, by simpa using hnot⟩
  · rintro ⟨⟨p, hmem, rfl⟩, hnot⟩
    exact ⟨p, List.mem_filter.mpr ⟨hmem, by simpa using hnot⟩, rfl⟩

/-- The key of a class below a parent is inherited from the top, which declares its field. -/
theorem exists_top_of_key (h : d.Unambiguous) (hacyclic : d.Acyclic) (hext : d.Extends c parent)
    {key : PrimaryKey} (hkey : (Index.ofDiagram d).key c = some key) :
    key.inherited = true ∧
      ∃ top, d.IsTop c top ∧ (Index.ofDiagram d).Declares top key.name := by
  have hparent := (h.parent?_eq_some_iff hext.1).mpr hext
  simp only [Index.key, hparent] at hkey
  obtain ⟨choice, hchoice, rfl⟩ := Option.map_eq_some_iff.mp hkey
  exact ⟨rfl, _, h.root_isTop hacyclic hext.1, Index.declares_of_ownKey hchoice⟩

end Diagram.Unambiguous

/-- **When a field of an ancestor is repeated.** A class repeats no field that its parent declares.
A field that any ancestor declares is left in the entity of a class exactly if the class declares
it too and its parent does not. This goes for the field of the key that the class inherits from
the top of its hierarchy as well, so the class never repeats it if the top is its parent. -/
theorem ancestorField_kept_iff {d : Diagram} (h : d.Unambiguous) (hacyclic : d.Acyclic)
    (basePackage : String) {c parent : ClassBox} (hext : d.Extends c parent) :
    let x := Index.ofDiagram d
    (∀ name, x.Declares parent name → ¬ x.Keeps basePackage c name) ∧
    (∀ ancestor name, TransGen d.Extends c ancestor → x.Declares ancestor name →
      (x.Keeps basePackage c name ↔ x.Declares c name ∧ ¬ x.Declares parent name)) ∧
    ∀ key, (x.entityLayer basePackage c).key = some key →
      key.inherited = true ∧
      (x.Keeps basePackage c key.name ↔ x.Declares c key.name ∧ ¬ x.Declares parent key.name) ∧
      ∃ top, TransGen d.Extends c top ∧ d.IsTop c top ∧ x.Declares top key.name ∧
        (top = parent → ¬ x.Keeps basePackage c key.name) := by
  intro x
  refine ⟨fun name hname hkeeps => ?_, fun _ name _ _ => h.keeps_iff basePackage hext name, ?_⟩
  · exact ((h.keeps_iff basePackage hext name).mp hkeeps).2 hname
  · intro key hkey
    obtain ⟨hinherited, top, htop, hdeclares⟩ := h.exists_top_of_key hacyclic hext hkey
    have habove : TransGen d.Extends c top := by
      rcases htop.chain.cases_head with rfl | ⟨next, hstep, hchain⟩
      · exact absurd hext (htop.extends_nothing parent)
      · exact .head' hstep hchain
    refine ⟨hinherited, h.keeps_iff basePackage hext key.name, top, habove, htop, hdeclares, ?_⟩
    rintro rfl hkeeps
    exact ((h.keeps_iff basePackage hext key.name).mp hkeeps).2 hdeclares

/-! ### Three classes in a row -/

/-- The top of a hierarchy, with a field that can be its key. -/
def topOfThree : ClassBox :=
  (ClassBox.named "a" "A").addAttribute "id" "int"

/-- The class in the middle, which does not declare that field. -/
def middleOfThree : ClassBox :=
  (ClassBox.named "b" "B").addAttribute "Colour" "string"

/-- The lowest class, which declares the fields of both under other spellings. -/
def lowestOfThree : ClassBox :=
  ((ClassBox.named "c" "C").addAttribute "ID" "int").addAttribute "colour" "string"

/-- A hierarchy in which a field comes back behind a class that does not declare it. -/
def threeInARow : Diagram where
  classes := [topOfThree, middleOfThree, lowestOfThree]
  relationships :=
    [.between .generalization "b" "a" [], .between .generalization "c" "b" []]

theorem threeInARow_unambiguous : threeInARow.Unambiguous :=
  ⟨by decide +kernel, by decide +kernel⟩

theorem threeInARow_acyclic : threeInARow.Acyclic :=
  threeInARow_unambiguous.acyclic_of_rank (fun c => ["a", "b", "c"].idxOf c.id)
    (by decide +kernel)

theorem threeInARow_extends :
    threeInARow.Extends lowestOfThree middleOfThree ∧
      threeInARow.Extends middleOfThree topOfThree := by
  have hmiddle : middleOfThree ∈ threeInARow.classes := by decide +kernel
  have hlowest : lowestOfThree ∈ threeInARow.classes := by decide +kernel
  rw [← threeInARow_unambiguous.parent?_eq_some_iff hlowest,
    ← threeInARow_unambiguous.parent?_eq_some_iff hmiddle]
  decide +kernel

theorem ancestorField_kept_iff_threeInARow :
    threeInARow.Unambiguous ∧ threeInARow.Acyclic ∧
      threeInARow.Extends lowestOfThree middleOfThree ∧
      ¬ (Index.ofDiagram threeInARow).Keeps "com.example" lowestOfThree "colour" ∧
      (Index.ofDiagram threeInARow).Keeps "com.example" lowestOfThree "id" := by
  obtain ⟨hparent, hancestors, -⟩ := ancestorField_kept_iff threeInARow_unambiguous
    threeInARow_acyclic "com.example" threeInARow_extends.1
  have habove : TransGen threeInARow.Extends lowestOfThree topOfThree :=
    .tail (.single threeInARow_extends.1) threeInARow_extends.2
  exact ⟨threeInARow_unambiguous, threeInARow_acyclic, threeInARow_extends.1,
    hparent "colour" (by decide +kernel),
    (hancestors topOfThree "id" habove (by decide +kernel)).mpr
      ⟨by decide +kernel, by decide +kernel⟩⟩

/-- A class can repeat a field of an ancestor, and even that of the key that it inherits. -/
theorem exists_ancestorField_kept :
    ∃ (d : Diagram) (c ancestor : ClassBox) (key : PrimaryKey),
      d.Unambiguous ∧ d.Acyclic ∧ TransGen d.Extends c ancestor ∧
      (Index.ofDiagram d).Declares ancestor key.name ∧
      ((Index.ofDiagram d).entityLayer "com.example" c).key = some key ∧ key.inherited = true ∧
      (Index.ofDiagram d).Keeps "com.example" c key.name :=
  ⟨threeInARow, lowestOfThree, topOfThree, ⟨"id", "Long", "setId", true, true⟩,
    threeInARow_unambiguous, threeInARow_acyclic,
    .tail (.single threeInARow_extends.1) threeInARow_extends.2, by decide +kernel,
    by decide +kernel, rfl, by decide +kernel⟩

end Scaffold

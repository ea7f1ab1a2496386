import Scaffold.Proofs.Association.Collections
import Scaffold.Proofs.Diagram.Repeated
import Scaffold.Proofs.Entity.References
import Scaffold.Proofs.Naming.Initials

/-!
# Entities as type tags

The entities of a diagram are used as types by their names, and the plainest way to write such a
type is the entity itself. A tag that is no known type is read as a free-form name, though, and an
entity is read like any other name: what is looked up is its type identifier. So an entity stands
for itself exactly if it is its own type identifier, and this is a matter of the name of the class:
no two words of one letter may stand next to each other in it.

## Main definitions

* `KnownType.IsTag`: a text is a tag of a known type, in some case.

## Main results

* `typeInDiagram_entity_iff`: when an entity stands for itself, in terms of its type identifier.
* `entity_resolves_iff`: the same for names and for the classes of a diagram.
-/

namespace Scaffold

open Naming (entityName words InitialsApart)

/-- A text is, in some case, a tag of a known type. -/
def KnownType.IsTag (text : String) : Prop :=
  ∃ known : KnownType, Text.asciiLower text ∈ known.tags

theorem KnownType.ofTag?_entityName {raw : String} (h : ¬ IsTag (entityName raw)) :
    ofTag? (entityName raw) = none := by
  rw [ofTag?, Naming.trim_entityName, List.find?_eq_none]
  exact fun known _ hmem => h ⟨known, of_decide_eq_true hmem⟩

/-- In ASCII an entity that is no tag of a known type is read as a name. -/
theorem referenceType_entityName {raw : String} (h : ∀ c ∈ raw.toList, Unicode.isAscii c = true)
    (htag : ¬ KnownType.IsTag (entityName raw)) :
    referenceType (entityName raw) = entityName (entityName raw) := by
  obtain ⟨c, rest, heq, hc, -⟩ := (Naming.isTypeIdentifier_entityName h).exists_cons
  have hletter : Unicode.isAlphanumeric c = true := by
    rw [Unicode.isAlphanumeric_of_isAscii (Unicode.isAscii_of_isAlphanum hc), hc]
  have hany : (entityName raw).toList.any Unicode.isAlphanumeric = true := by
    rw [heq, String.toList_ofList, List.any_cons, hletter, Bool.true_or]
  unfold referenceType
  rw [KnownType.ofTag?_entityName htag]
  dsimp only
  rw [if_pos hany]

section

variable {isEntity : String → Bool} {raw : String}
  (h : ∀ c ∈ raw.toList, Unicode.isAscii c = true) (hentity : isEntity (entityName raw) = true)
  (htag : ¬ KnownType.IsTag (entityName raw))

include h htag in
/-- An entity as a tag stands for its type identifier if there is such an entity. -/
theorem typeInDiagram_entityName :
    typeInDiagram isEntity (entityName raw) =
      if isEntity (entityName (entityName raw)) then entityName (entityName raw)
      else objectType := by
  unfold typeInDiagram
  rw [KnownType.ofTag?_entityName htag]
  dsimp only
  rw [referenceType_entityName h htag]

include h hentity htag in
theorem typeInDiagram_entity_iff :
    typeInDiagram isEntity (entityName raw) = entityName raw ↔
      entityName (entityName raw) = entityName raw := by
  rw [typeInDiagram_entityName h htag]
  split_ifs with hfound
  · rfl
  · -- the type of unknown values is no class here, so it is not the entity that was written
    have hobject : entityName objectType = objectType := by decide
    have hself : ¬ entityName (entityName raw) = entityName raw := fun heq =>
      hfound (heq.symm ▸ hentity)
    refine iff_of_false (fun heq => hself ?_) hself
    rwa [← heq]

include h htag in
/-- An entity as a tag never stands for no value. -/
theorem attributeType_entityName :
    attributeType isEntity (entityName raw) = typeInDiagram isEntity (entityName raw) := by
  have hascii : ∀ c ∈ (entityName raw).toList, Unicode.isAscii c = true := fun c hc =>
    Unicode.isAscii_of_isAlphanum
      (List.all_eq_true.mp (Naming.isTypeIdentifier_entityName h).2.1 c hc)
  have htype : Naming.IsTypeIdentifier (typeInDiagram isEntity (entityName raw)) := by
    rw [typeInDiagram_entityName h htag]
    split_ifs
    · exact Naming.isTypeIdentifier_entityName hascii
    · decide
  have hvalue : ¬ isNoValue (typeInDiagram isEntity (entityName raw)) = true := by
    rw [isNoValue, beq_iff_eq]
    intro hvoid
    rw [hvoid] at htype
    exact absurd htype (by decide)
  rw [attributeType, if_neg hvalue]

end

/-- **An entity stands for itself exactly if its class has no two words of one letter next to each
other.** This says when the type identifier of a type identifier in ASCII is the same, and when the
entity of a class of a diagram in ASCII, written as the type of an attribute or as a return type, is
resolved to that entity, unless it is the tag of a known type. -/
theorem entity_resolves_iff :
    (∀ raw : String, (∀ c ∈ raw.toList, Unicode.isAscii c = true) →
      (entityName (entityName raw) = entityName raw ↔ InitialsApart (words raw.toList))) ∧
    ∀ d : Diagram, d.HasAsciiNames → ∀ c ∈ d.classes, ¬ KnownType.IsTag c.entity →
      (attributeType (Index.ofDiagram d).isEntity c.entity = c.entity ↔
        InitialsApart (words c.name.toList)) ∧
      (typeInDiagram (Index.ofDiagram d).isEntity c.entity = c.entity ↔
        InitialsApart (words c.name.toList)) := by
  refine ⟨fun raw h => Naming.entityName_entityName_iff h, fun d hd c hc htag => ?_⟩
  have hascii := List.all_eq_true.mp (hd c hc)
  have hentity : (Index.ofDiagram d).isEntity c.entity = true :=
    Diagram.isEntity_eq_true_iff.mpr ⟨c, hc, rfl⟩
  have htype : typeInDiagram (Index.ofDiagram d).isEntity c.entity = c.entity ↔
      InitialsApart (words c.name.toList) :=
    (typeInDiagram_entity_iff hascii hentity htag).trans (Naming.entityName_entityName_iff hascii)
  refine ⟨?_, htype⟩
  rwa [ClassBox.entity, attributeType_entityName hascii htag]

/-- A survey and the tests in it, each of which may be followed by another one. -/
def surveyDiagram : Diagram where
  classes := [.named "s" "3D survey", (ClassBox.named "t" "A/B test").addAttribute "next" "ABTest"]
  relationships := []

theorem entity_resolves_iff_survey :
    let isEntity := (Index.ofDiagram surveyDiagram).isEntity
    (∀ c ∈ "3D survey".toList, Unicode.isAscii c = true) ∧
      entityName (entityName "3D survey") = entityName "3D survey" ∧
      surveyDiagram.HasAsciiNames ∧
      ClassBox.named "s" "3D survey" ∈ surveyDiagram.classes ∧
      ¬ KnownType.IsTag (ClassBox.named "s" "3D survey").entity ∧
      attributeType isEntity (ClassBox.named "s" "3D survey").entity =
        (ClassBox.named "s" "3D survey").entity ∧
      typeInDiagram isEntity (ClassBox.named "s" "3D survey").entity =
        (ClassBox.named "s" "3D survey").entity := by
  intro isEntity
  have hascii : ∀ c ∈ "3D survey".toList, Unicode.isAscii c = true :=
    List.all_eq_true.mp (by decide)
  have hnames : surveyDiagram.HasAsciiNames := by decide
  have hmem : ClassBox.named "s" "3D survey" ∈ surveyDiagram.classes := by decide
  have htag : ¬ KnownType.IsTag (ClassBox.named "s" "3D survey").entity := by
    rintro ⟨known, hknown⟩
    revert hknown
    cases known <;> decide
  have hapart : InitialsApart (words "3D survey".toList) := by decide
  obtain ⟨hattribute, htype⟩ :=
    entity_resolves_iff.2 surveyDiagram hnames (.named "s" "3D survey") hmem htag
  exact ⟨hascii, (entity_resolves_iff.1 "3D survey" hascii).mpr hapart, hnames, hmem, htag,
    hattribute.mpr hapart, htype.mpr hapart⟩

/-- An entity that is no tag of a known type need not stand for itself, although its class is there:
two words of one letter next to each other are one word when they are read again. -/
theorem exists_entity_unresolved :
    ∃ d : Diagram, d.HasAsciiNames ∧ ∃ c ∈ d.classes, ¬ KnownType.IsTag c.entity ∧
      c.entity = "ABTest" ∧ entityName c.entity = "AbTest" ∧
      attributeType (Index.ofDiagram d).isEntity c.entity = "Object" ∧
      typeInDiagram (Index.ofDiagram d).isEntity c.entity = "Object" := by
  have htag : ¬ KnownType.IsTag (entityName "A/B test") := by
    rintro ⟨known, hknown⟩
    revert hknown
    cases known <;> decide
  exact ⟨surveyDiagram, by decide,
    (ClassBox.named "t" "A/B test").addAttribute "next" "ABTest", by decide, htag,
    by decide, by decide, by decide, by decide⟩

end Scaffold

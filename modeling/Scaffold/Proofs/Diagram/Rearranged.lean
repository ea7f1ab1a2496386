import Scaffold.Diagram.Document
import Scaffold.Proofs.Diagram.RoundTrip
import Scaffold.Proofs.Json.Rearranged

/-!
# Documents of diagrams in another order

The document of a diagram holds records in records: classes and relationships, and in the classes
attributes and operations. In each of them the members may come in any order, and members with other
names and any values may be put among them, at all places at once. The diagram that is read stays
the same.

## Main definitions

* `Json.ListRearranged`: a list whose items were rearranged.
* `Attribute.Rearranged`, `Method.Rearranged`, `ClassBox.Rearranged`, `Relationship.Rearranged`,
  `Diagram.Rearranged`: a document that was rearranged in each of its records.

## Main results

* `attributeRecord_lawful`, `methodRecord_lawful`, `classRecord_lawful`,
  `relationshipRecord_lawful`, `diagramRecord_lawful`: the fields of the records do not get into
  each other's way.
* `Diagram.parse_eq_ok_iff`: a diagram is read from documents only.
* `RecordType.rearranged_written`: how to rearrange an object that is written.
* `Diagram.parse_rearranged`: a rearranged document gives the same diagram.
-/

namespace Scaffold

open Json (Node Spells Value)
open Record (Sound Apart)

/-! ### The fields of the records -/

theorem isWhole_of_kindOfNode {v : Node} {kind : RelationshipKind}
    (h : kindOfNode v = .ok kind) : v.IsWhole := by
  obtain ⟨_, htext, -⟩ := Json.except_map_eq_ok_iff.mp h
  exact Node.isWhole_of_text htext

theorem attributeRecord_lawful : attributeRecord.Lawful where
  sound := by
    simp only [attributeRecord, List.forall_mem_cons]
    exact ⟨.reading (fun _ _ => rfl) Node.isWhole_of_text,
      .reading (fun _ _ => rfl) Node.isWhole_of_text, by simp⟩
  apart := by
    simp only [attributeRecord, List.pairwise_cons, List.forall_mem_cons]
    exact ⟨⟨Record.apart_reading (fun _ _ => rfl) (fun _ _ => rfl) (fun _ _ _ => rfl), by simp⟩,
      by simp⟩

theorem methodRecord_lawful : methodRecord.Lawful where
  sound := by
    simp only [methodRecord, List.forall_mem_cons]
    exact ⟨.reading (fun _ _ => rfl) Node.isWhole_of_text,
      .reading (fun _ _ => rfl) Node.isWhole_of_optionalText,
      .reading (fun _ _ => rfl) Node.isWhole_of_optionalText, by simp⟩
  apart := by
    simp only [methodRecord, List.pairwise_cons, List.forall_mem_cons]
    refine ⟨⟨?_, ?_, by simp⟩, ⟨?_, by simp⟩, by simp⟩ <;>
      exact Record.apart_reading (fun _ _ => rfl) (fun _ _ => rfl) (fun _ _ _ => rfl)

theorem classRecord_lawful : classRecord.Lawful where
  sound := by
    simp only [classRecord, List.forall_mem_cons]
    exact ⟨.reading (fun _ _ => rfl) Node.isWhole_of_text,
      .reading (fun _ _ => rfl) Node.isWhole_of_text,
      .reading (fun _ _ => rfl) (Node.isWhole_of_list attributeRecord_lawful.isWhole_of_ofNode),
      .reading (fun _ _ => rfl) (Node.isWhole_of_list methodRecord_lawful.isWhole_of_ofNode),
      by simp⟩
  apart := by
    simp only [classRecord, List.pairwise_cons, List.forall_mem_cons]
    refine ⟨⟨?_, ?_, ?_, by simp⟩, ⟨?_, ?_, by simp⟩, ⟨?_, by simp⟩, by simp⟩ <;>
      exact Record.apart_reading (fun _ _ => rfl) (fun _ _ => rfl) (fun _ _ _ => rfl)

theorem relationshipRecord_lawful : relationshipRecord.Lawful where
  sound := by
    simp only [relationshipRecord, List.forall_mem_cons]
    exact ⟨.reading (fun _ _ => rfl) Node.isWhole_of_optionalText,
      .reading (fun _ _ => rfl) isWhole_of_kindOfNode,
      .reading (fun _ _ => rfl) Node.isWhole_of_text,
      .reading (fun _ _ => rfl) Node.isWhole_of_text,
      .reading (fun _ _ => rfl) (Node.isWhole_of_list Node.isWhole_of_text), by simp⟩
  apart := by
    simp only [relationshipRecord, List.pairwise_cons, List.forall_mem_cons]
    refine ⟨⟨?_, ?_, ?_, ?_, by simp⟩, ⟨?_, ?_, ?_, by simp⟩, ⟨?_, ?_, by simp⟩, ⟨?_, by simp⟩,
      by simp⟩ <;>
      exact Record.apart_reading (fun _ _ => rfl) (fun _ _ => rfl) (fun _ _ _ => rfl)

theorem diagramRecord_lawful : diagramRecord.Lawful where
  sound := by
    simp only [diagramRecord, List.forall_mem_cons]
    exact ⟨
      .reading (fun _ _ => rfl) (Node.isWhole_of_list classRecord_lawful.isWhole_of_ofNode),
      .reading (fun _ _ => rfl) (Node.isWhole_of_list relationshipRecord_lawful.isWhole_of_ofNode),
      by simp⟩
  apart := by
    simp only [diagramRecord, List.pairwise_cons, List.forall_mem_cons]
    exact ⟨⟨Record.apart_reading (fun _ _ => rfl) (fun _ _ => rfl) (fun _ _ _ => rfl), by simp⟩,
      by simp⟩

/-- A diagram is read from the documents whose trees it is read from. -/
theorem Diagram.parse_eq_ok_iff {text : String} {d : Diagram} :
    Diagram.parse text = .ok d ↔ ∃ v, Spells text v ∧ diagramRecord.ofNode v = .ok d :=
  diagramRecord_lawful.parse_eq_ok_iff

/-! ### Rearranged documents -/

/-- A list whose items were rearranged one by one. -/
inductive Json.ListRearranged (item : Node → Node → Prop) : Node → Node → Prop
  | mk {vs vs' : List Node} {ending : Json.ArrayEnd} : List.Forall₂ item vs vs' →
      ListRearranged item (.array vs ending) (.array vs' ending)

theorem Json.Node.list_rearranged {α : Type} {item : Node → Except Json.Error α}
    {rearranged : Node → Node → Prop}
    (hitem : ∀ v v', rearranged v v' → ∀ x, item v' = .ok x ↔ item v = .ok x) {v v' : Node}
    (hv : Json.ListRearranged rearranged v v') (xs : List α) :
    Node.list item v' = .ok xs ↔ Node.list item v = .ok xs := by
  obtain ⟨hvs⟩ := hv
  rw [Node.list_array_eq_ok_iff, Node.list_array_eq_ok_iff]
  refine and_congr_left fun _ => ?_
  induction hvs generalizing xs with
  | nil => rfl
  | cons hv _ ih => cases xs <;> simp [hitem _ _ hv, ih]

/-- The document of an attribute, rearranged. -/
def Attribute.Rearranged : Node → Node → Prop :=
  attributeRecord.Rearranged fun _ _ _ => False

/-- The document of an operation, rearranged. -/
def Method.Rearranged : Node → Node → Prop :=
  methodRecord.Rearranged fun _ _ _ => False

/-- The document of a relationship, rearranged. -/
def Relationship.Rearranged : Node → Node → Prop :=
  relationshipRecord.Rearranged fun _ _ _ => False

/-- The value of a field of a class, rearranged. -/
def ClassBox.PartRearranged : String → Node → Node → Prop
  | "attributes" => Json.ListRearranged Attribute.Rearranged
  | "methods" => Json.ListRearranged Method.Rearranged
  | _ => fun _ _ => False

/-- The document of a class, rearranged. -/
def ClassBox.Rearranged : Node → Node → Prop :=
  classRecord.Rearranged ClassBox.PartRearranged

/-- The value of a field of a diagram, rearranged. -/
def Diagram.PartRearranged : String → Node → Node → Prop
  | "classes" => Json.ListRearranged ClassBox.Rearranged
  | "relationships" => Json.ListRearranged Relationship.Rearranged
  | _ => fun _ _ => False

/-- The document of a diagram, rearranged in each of its records. -/
def Diagram.Rearranged : Node → Node → Prop :=
  diagramRecord.Rearranged Diagram.PartRearranged

/-! ### Reading rearranged documents -/

theorem RecordType.respects_false {Draft α : Type} (r : RecordType Node Json.Error Draft α) :
    r.Respects fun _ _ _ => False :=
  fun _ _ _ _ h => h.elim

/-- A field that holds a list of records takes the records rearranged as well. -/
theorem RecordType.Lawful.put_list_rearranged {Draft Draft' α : Type}
    {r : RecordType Node Json.Error Draft α} {part : String → Node → Node → Prop} (h : r.Lawful)
    (hpart : r.Respects part) {name : String} {isRequired : Bool} {get : Draft' → Option (List α)}
    {set : Draft' → List α → Draft'} {v v' : Node}
    (hv : Json.ListRearranged (r.Rearranged part) v v') (d d' : Draft') :
    (Record.Field.reading name isRequired (Node.list r.ofNode) get set).put v' d = .ok d' ↔
      (Record.Field.reading name isRequired (Node.list r.ofNode) get set).put v d = .ok d' := by
  have hitem : ∀ v v', r.Rearranged part v v' → ∀ x, r.ofNode v' = .ok x ↔ r.ofNode v = .ok x :=
    fun _ _ => h.ofNode_rearranged hpart
  have hread := Node.list_rearranged hitem hv
  simp only [Record.put_reading_eq_ok_iff, hread]

theorem ClassBox.respects_partRearranged : classRecord.Respects ClassBox.PartRearranged := by
  rw [RecordType.Respects]
  simp only [classRecord, List.forall_mem_cons]
  refine ⟨fun _ _ hv => ?id, fun _ _ hv => ?name, fun _ _ hv => ?attributes,
    fun _ _ hv => ?methods, by simp⟩
  case id | name => simp [PartRearranged, Record.Field.reading] at hv
  case attributes =>
    exact attributeRecord_lawful.put_list_rearranged attributeRecord.respects_false
      (by simpa [PartRearranged, Record.Field.reading, Attribute.Rearranged] using hv)
  case methods =>
    exact methodRecord_lawful.put_list_rearranged methodRecord.respects_false
      (by simpa [PartRearranged, Record.Field.reading, Method.Rearranged] using hv)

theorem Diagram.respects_partRearranged : diagramRecord.Respects Diagram.PartRearranged := by
  rw [RecordType.Respects]
  simp only [diagramRecord, List.forall_mem_cons]
  refine ⟨fun _ _ hv => ?classes, fun _ _ hv => ?relationships, by simp⟩
  case classes =>
    exact classRecord_lawful.put_list_rearranged ClassBox.respects_partRearranged
      (by simpa [PartRearranged, Record.Field.reading, ClassBox.Rearranged] using hv)
  case relationships =>
    exact relationshipRecord_lawful.put_list_rearranged relationshipRecord.respects_false
      (by simpa [PartRearranged, Record.Field.reading, Relationship.Rearranged] using hv)

/-- A diagram is read from a document exactly if it is read from a rearranged one. -/
theorem Diagram.parse_eq_ok_iff_of_rearranged {text text' : String} {v v' : Node}
    (htext : Spells text v) (htext' : Spells text' v') (h : Diagram.Rearranged v v')
    (d : Diagram) : Diagram.parse text' = .ok d ↔ Diagram.parse text = .ok d := by
  have hread := diagramRecord_lawful.ofNode_rearranged Diagram.respects_partRearranged h d
  have hunique : ∀ {text : String} {v : Node}, Spells text v →
      (Diagram.parse text = .ok d ↔ diagramRecord.ofNode v = .ok d) := by
    intro text v htext
    rw [Diagram.parse_eq_ok_iff]
    constructor
    · rintro ⟨w, hw, hd⟩
      exact htext.unique hw ▸ hd
    · exact fun hd => ⟨v, htext, hd⟩
  rw [hunique htext', hunique htext, hread]

/-! ### Written documents -/

/-- An object that is written is rearranged by permuting its members, changing the values of the
fields as `part` allows and putting members with other names among them. -/
theorem RecordType.rearranged_written {Draft α : Type} {r : RecordType Node Json.Error Draft α}
    {part : String → Node → Node → Prop} {ms changed extra ms' : List (String × Value)}
    (hperm : ms'.Perm (extra ++ changed))
    (hchanged : List.Forall₂ (fun m m' => m'.1 = m.1 ∧ (m'.2 = m.2 ∨
      m.1 ∈ r.fields.map Record.Field.name ∧ part m.1 m.2.toNode m'.2.toNode)) ms changed)
    (hextra : ∀ m ∈ extra, m.1 ∉ r.fields.map Record.Field.name) :
    r.Rearranged part (Value.object ms).toNode (Value.object ms').toNode := by
  simp only [Value.toNode, Json.nodesOfMembers_eq_map]
  have hperm := hperm.map fun m => (Json.RawString.ofString m.1, m.2.toNode)
  rw [List.map_append] at hperm
  refine .object ?_ ?_ hperm
  · rw [List.forall₂_map_left_iff, List.forall₂_map_right_iff]
    refine hchanged.imp fun m m' hmember => ?_
    obtain ⟨hkey, hvalue⟩ := hmember
    refine ⟨by rw [hkey], ?_⟩
    rcases hvalue with hsame | ⟨hfield, hpart⟩
    · exact .inl (by rw [hsame])
    · obtain ⟨f, hf, hname⟩ := List.mem_map.mp hfield
      rw [← hname] at hpart
      exact .inr ⟨f, hf, by rw [hname]; exact Json.RawString.text_ofString _, hpart⟩
  · simp only [List.forall_mem_map]
    exact fun m hm => ⟨⟨m.1, Json.RawString.text_ofString _, hextra m hm⟩, _, m.2.spelled_write⟩

/-! ### Diagrams -/

/-- A text that a diagram is read from is a document, and every text that spells the document
rearranged gives the same diagram. -/
theorem Diagram.parse_rearranged {text : String} {d : Diagram} (h : Diagram.parse text = .ok d) :
    (∃ v, Spells text v) ∧
      ∀ v v' text', Spells text v → Diagram.Rearranged v v' → Spells text' v' →
        Diagram.parse text' = .ok d := by
  constructor
  · obtain ⟨v, htext, -⟩ := Diagram.parse_eq_ok_iff.mp h
    exact ⟨v, htext⟩
  · intro v v' text' htext hrearranged htext'
    exact (Diagram.parse_eq_ok_iff_of_rearranged htext htext' hrearranged d).mpr h

/-- A class with an attribute and an operation, related to itself. -/
def Diagram.pets : Diagram where
  classes := [⟨"1", "Pet", [⟨"name", "String"⟩], [⟨"feed", some "void", none⟩]⟩]
  relationships := [⟨none, .association, "1", "1", ["1", "*"]⟩]

/-- Its document with the first two members of each object exchanged and one more put between
them. -/
def Diagram.petsRearranged : Value :=
  .object
    [("relationships", .array
      [.object
        [("sourceId", .string "1"),
         ("points", .array [.object [("x", .number 3)], .null]),
         ("type", .string "association"),
         ("targetId", .string "1"),
         ("labels", .array [.string "1", .string "*"])]]),
     ("name", .string "pets"),
     ("classes", .array
      [.object
        [("name", .string "Pet"),
         ("color", .array [.array []]),
         ("id", .string "1"),
         ("attributes", .array
          [.object
            [("type", .string "String"), ("default", .object []), ("name", .string "name")]]),
         ("methods", .array
          [.object
            [("returnType", .string "void"),
             ("isStatic", .boolean false),
             ("name", .string "feed"),
             ("parameters", .null)]])]])]

theorem Diagram.parse_rearranged_pets :
    Diagram.parse pets.toDocument.text = .ok pets ∧
      Diagram.parse petsRearranged.text = .ok pets := by
  have hparse : Diagram.parse pets.toDocument.text = .ok pets :=
    (Diagram.parse_toDocument_eq_self_iff pets).mpr (by
      simp only [pets, List.forall_mem_cons]
      exact ⟨⟨"association", by decide +kernel⟩, by simp⟩)
  -- the second member, the new one and the first one
  have hperm {α : Type} {a b c : α} {l : List α} : (b :: c :: a :: l).Perm ([c] ++ a :: b :: l) :=
    (List.Perm.swap c b (a :: l)).trans ((List.Perm.swap a b l).cons c)
  have hrearranged : Diagram.Rearranged pets.toDocument.toNode petsRearranged.toNode := by
    refine RecordType.rearranged_written hperm
      (.cons ⟨rfl, .inr ⟨by decide, .mk (.cons ?box .nil)⟩⟩
        (.cons ⟨rfl, .inr ⟨by decide, .mk (.cons ?relationship .nil)⟩⟩ .nil)) (by decide)
    case relationship =>
      exact RecordType.rearranged_written hperm (by simp [RelationshipKind.text]) (by decide)
    case box =>
      refine RecordType.rearranged_written hperm
        (.cons ⟨rfl, .inl rfl⟩ (.cons ⟨rfl, .inl rfl⟩
          (.cons ⟨rfl, .inr ⟨by decide, .mk (.cons ?attr .nil)⟩⟩
            (.cons ⟨rfl, .inr ⟨by decide, .mk (.cons ?method .nil)⟩⟩ .nil)))) (by decide)
      case attr => exact RecordType.rearranged_written hperm (by simp) (by decide)
      case method =>
        exact RecordType.rearranged_written hperm (by simp [optionalDocument]) (by decide)
  exact ⟨hparse, (Diagram.parse_rearranged hparse).2 _ _ _ (Json.spells_text _) hrearranged
    (Json.spells_text _)⟩

end Scaffold

import Scaffold.Diagram.Document
import Scaffold.Proofs.Json.RoundTrip

/-!
# Diagrams as documents and back

A diagram is written as a document and read from it again. Nothing is lost on the way, whatever the
texts in it, except in the kind of a relationship: a kind that has no name of its own is kept as it
was written, and when it is read, its text may turn out to name one of the known kinds.

## Main definitions

* `Relationship.reread`, `Diagram.reread`: a relationship or a diagram as it is read back.

## Main results

* `RecordType.takeMembers_written`: a written member is taken by the field of its name.
* `Node.list_written`: a written list is read item by item.
* `Diagram.parse_toDocument`: a written diagram is read back, with the kinds that the texts of its
  kinds name.
* `Diagram.parse_toDocument_eq_self_iff`: it is the same diagram exactly if its kinds are kinds that
  texts name.
-/

namespace Scaffold

open Json (Value Node Error RawString)

/-! ### Written records -/

section Records

variable {Draft α β : Type} (r : RecordType Node Error Draft α)

/-- A written member is taken by the field of its name. -/
theorem RecordType.takeMembers_written {draft : Draft} {name : String} {isRequired : Bool}
    {read : Node → Except Error β} {get : Draft → Option β} {set : Draft → β → Draft}
    {node : Node} {value : β}
    (hfield : r.field? name = some (.reading name isRequired read get set))
    (hnew : get draft = none) (hread : read node = .ok value) (rest : List (RawString × Node)) :
    r.takeMembers .closed draft ((.ofString name, node) :: rest) =
      r.takeMembers .closed (set draft value) rest := by
  have hkey : r.fieldOfKey draft (.ofString name) =
      .ok (some (.reading name isRequired read get set)) := by
    simp [RecordType.fieldOfKey, hfield, Record.Field.reading, hnew]
  have htake : r.takeMember draft (.ofString name, node) = .ok (set draft value) := by
    simp [RecordType.takeMember, hkey, Record.Field.reading, hread, Except.map]
  rw [RecordType.takeMembers, htake]

/-- An object that was written is the record of the draft that its members give. -/
theorem RecordType.ofNode_written {members : List (String × Value)} (draft : Draft)
    (hmembers : r.takeMembers .closed r.blank (Json.nodesOfMembers members) = .ok draft)
    (hmissing : r.missing? draft = none) :
    r.ofNode (Value.object members).toNode = .ok (r.finish draft) := by
  simp [Value.toNode, RecordType.ofNode, RecordType.ofObject, hmembers, RecordType.close, hmissing,
    Except.mapError]

theorem Json.mapM_nodesOfItems {item : Node → Except Error β} {write : β → Value} {back : β → β}
    (hitem : ∀ b, item (write b).toNode = .ok (back b)) (items : List β) :
    (Json.nodesOfItems (items.map write)).mapM item = .ok (items.map back) := by
  induction items with
  | nil => rfl
  | cons b rest ih =>
    rw [List.map_cons, Json.nodesOfItems, List.mapM_cons, hitem, ih]
    rfl

/-- A written list is read item by item. -/
theorem Json.Node.list_written {item : Node → Except Error β} {write : β → Value} {back : β → β}
    (hitem : ∀ b, item (write b).toNode = .ok (back b)) (items : List β) :
    Node.list item (Value.array (items.map write)).toNode = .ok (items.map back) := by
  rw [Value.toNode, Node.list, Json.mapM_nodesOfItems hitem]
  rfl

end Records

theorem Json.Node.text_written (s : String) : (Value.string s).toNode.text = .ok s := by
  simp [Value.toNode, Node.text, Except.mapError]

theorem Json.Node.optionalText_written (s : Option String) :
    (optionalDocument s).toNode.optionalText = .ok s := by
  cases s with
  | none => rfl
  | some s => simp [optionalDocument, Value.toNode, Node.optionalText, Node.text, Except.mapError,
      Except.map]

/-! ### Parts of diagrams -/

theorem Attribute.ofNode_toDocument (a : Attribute) :
    attributeRecord.ofNode a.toDocument.toNode = .ok a := by
  refine attributeRecord.ofNode_written ⟨some a.name, some a.tag⟩ ?_ rfl
  simp only [Json.nodesOfMembers]
  rw [RecordType.takeMembers_written _ rfl rfl (Node.text_written _),
    RecordType.takeMembers_written _ rfl rfl (Node.text_written _)]
  rfl

theorem Method.ofNode_toDocument (m : Method) :
    methodRecord.ofNode m.toDocument.toNode = .ok m := by
  refine methodRecord.ofNode_written ⟨some m.name, some m.returnType, some m.parameters⟩ ?_ rfl
  simp only [Json.nodesOfMembers]
  rw [RecordType.takeMembers_written _ rfl rfl (Node.text_written _),
    RecordType.takeMembers_written _ rfl rfl (Node.optionalText_written _),
    RecordType.takeMembers_written _ rfl rfl (Node.optionalText_written _)]
  rfl

theorem ClassBox.ofNode_toDocument (c : ClassBox) :
    classRecord.ofNode c.toDocument.toNode = .ok c := by
  have hattributes := Node.list_written Attribute.ofNode_toDocument c.attributes
  have hmethods := Node.list_written Method.ofNode_toDocument c.methods
  rw [List.map_id'] at hattributes hmethods
  refine classRecord.ofNode_written
    ⟨some c.id, some c.name, some c.attributes, some c.methods⟩ ?_ rfl
  simp only [Json.nodesOfMembers]
  rw [RecordType.takeMembers_written _ rfl rfl (Node.text_written _),
    RecordType.takeMembers_written _ rfl rfl (Node.text_written _),
    RecordType.takeMembers_written _ rfl rfl hattributes,
    RecordType.takeMembers_written _ rfl rfl hmethods]
  rfl

/-! ### Kinds of relationships -/

/-- The kind that a text names has a text that names it. -/
theorem RelationshipKind.ofText_text_ofText (text : String) :
    RelationshipKind.ofText (RelationshipKind.ofText text).text = .ofText text := by
  have hnames : ∀ kind ∈
      [RelationshipKind.generalization, .association, .aggregation, .composition],
      RelationshipKind.ofText kind.text = kind := by decide +kernel
  rw [RelationshipKind.ofText.eq_def text]
  dsimp only
  split_ifs with hgeneralization hassociation haggregation hcomposition
  · exact hnames _ (by simp)
  · exact hnames _ (by simp)
  · exact hnames _ (by simp)
  · exact hnames _ (by simp)
  · simp [RelationshipKind.text, RelationshipKind.ofText, *]

/-- A kind is read back exactly if it is one that a text names. -/
theorem RelationshipKind.ofText_text_eq_self_iff (kind : RelationshipKind) :
    RelationshipKind.ofText kind.text = kind ↔ ∃ text, kind = .ofText text := by
  constructor
  · intro h
    exact ⟨kind.text, h.symm⟩
  · rintro ⟨text, h⟩
    rw [h, ofText_text_ofText]

/-- A relationship as it is read back. -/
def Relationship.reread (r : Relationship) : Relationship :=
  { r with kind := .ofText r.kind.text }

/-- A diagram as it is read back. -/
def Diagram.reread (d : Diagram) : Diagram :=
  { d with relationships := d.relationships.map Relationship.reread }

theorem kindOfNode_written (kind : RelationshipKind) :
    kindOfNode (Value.string kind.text).toNode = .ok (.ofText kind.text) := by
  rw [kindOfNode, Node.text_written]
  rfl

theorem Relationship.ofNode_toDocument (r : Relationship) :
    relationshipRecord.ofNode r.toDocument.toNode = .ok r.reread := by
  obtain ⟨id, kind, sourceId, targetId, labels⟩ := r
  have hkind := kindOfNode_written kind
  have hlabels := Node.list_written Node.text_written labels
  rw [List.map_id'] at hlabels
  simp only [Relationship.reread]
  -- from here on it does not matter which kind the text names
  generalize RelationshipKind.ofText kind.text = reread at hkind ⊢
  have hrest : ∀ id : Option (Option String),
      relationshipRecord.takeMembers .closed ⟨id, none, none, none, none⟩
        (Json.nodesOfMembers
          [("type", .string kind.text),
           ("sourceId", .string sourceId),
           ("targetId", .string targetId),
           ("labels", .array (labels.map .string))]) =
      .ok ⟨id, some reread, some sourceId, some targetId, some labels⟩ := by
    intro id
    simp only [Json.nodesOfMembers]
    rw [RecordType.takeMembers_written _ rfl rfl hkind,
      RecordType.takeMembers_written _ rfl rfl (Node.text_written _),
      RecordType.takeMembers_written _ rfl rfl (Node.text_written _),
      RecordType.takeMembers_written _ rfl rfl hlabels]
    rfl
  cases id with
  | none => exact relationshipRecord.ofNode_written _ (hrest none) rfl
  | some id =>
    have hid : (Value.string id).toNode.optionalText = .ok (some id) :=
      Node.optionalText_written (some id)
    refine relationshipRecord.ofNode_written
      ⟨some (some id), some reread, some sourceId, some targetId, some labels⟩ ?_ rfl
    rw [Option.map_some, Option.toList_some, List.singleton_append, Json.nodesOfMembers,
      RecordType.takeMembers_written _ rfl rfl hid]
    exact hrest (some (some id))

/-! ### Diagrams -/

theorem Diagram.ofNode_toDocument (d : Diagram) :
    diagramRecord.ofNode d.toDocument.toNode = .ok d.reread := by
  have hclasses := Node.list_written ClassBox.ofNode_toDocument d.classes
  have hrelationships := Node.list_written Relationship.ofNode_toDocument d.relationships
  rw [List.map_id'] at hclasses
  refine diagramRecord.ofNode_written
    ⟨some d.classes, some (d.relationships.map Relationship.reread)⟩ ?_ rfl
  simp only [Json.nodesOfMembers]
  rw [RecordType.takeMembers_written _ rfl rfl hclasses,
    RecordType.takeMembers_written _ rfl rfl hrelationships]
  rfl

/-- A written diagram is read back, with the kinds that the texts of its kinds name. -/
theorem Diagram.parse_toDocument (d : Diagram) :
    Diagram.parse d.toDocument.text = .ok d.reread := by
  simp [Diagram.parse, RecordType.parse, Value.text, Json.read_write, Diagram.ofNode_toDocument,
    Json.skipBlanks]

theorem Relationship.reread_eq_self_iff (r : Relationship) :
    r.reread = r ↔ ∃ text, r.kind = .ofText text := by
  rw [← RelationshipKind.ofText_text_eq_self_iff]
  obtain ⟨id, kind, sourceId, targetId, labels⟩ := r
  simp [Relationship.reread]

theorem Diagram.reread_eq_self_iff (d : Diagram) :
    d.reread = d ↔ ∀ r ∈ d.relationships, ∃ text, r.kind = .ofText text := by
  have hmap : d.reread = d ↔ d.relationships.map Relationship.reread = d.relationships.map id := by
    rw [List.map_id]
    obtain ⟨classes, relationships⟩ := d
    simp [Diagram.reread]
  rw [hmap, List.map_inj_left]
  simp [Relationship.reread_eq_self_iff]

/-- A written diagram is read back as it was exactly if the kinds of its relationships are kinds
that texts name. -/
theorem Diagram.parse_toDocument_eq_self_iff (d : Diagram) :
    Diagram.parse d.toDocument.text = .ok d ↔
      ∀ r ∈ d.relationships, ∃ text, r.kind = .ofText text := by
  rw [Diagram.parse_toDocument, Except.ok.injEq, Diagram.reread_eq_self_iff]

end Scaffold

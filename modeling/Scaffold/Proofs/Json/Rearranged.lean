import Scaffold.Proofs.Json.Records

/-!
# Documents in another order

A record is read from the members of an object in any order. Fields of different names do not get
into each other's way, so two members that are taken one after the other can be taken the other way
round, and a field that was given refuses a second value whatever was given in between. Members with
other names are read over.

A document can therefore be rearranged in every record in it: the members of an object may be
permuted, members with other names and any values may be put among them, and the values of the
fields may be rearranged in turn. A record that is written as the list of its fields has no members
to permute, but records may stand in its fields.

## Main definitions

* `RecordType.IsExtra`: a member with a name that a record does not define.
* `RecordType.Rearranged`: a value for a record that was rearranged, where `part` says what may be
  done to the values of its fields.
* `RecordType.Respects`: what is done to the values of the fields does not matter to them.

## Main results

* `RecordType.Lawful.takeMembers_perm`, `RecordType.takeMembers_extra`: the order of the members and
  the members with other names do not matter.
* `RecordType.Lawful.ofNode_rearranged`: rearranging does not matter.
-/

namespace Scaffold

open Json (Node RawString ObjectEnd ArrayEnd)

namespace RecordType

open Record (Sound Apart)

variable {Draft α : Type} {r : RecordType Node Json.Error Draft α}

/-! ### Members -/

/-- Two members that were taken can be taken the other way round. -/
theorem Lawful.takeMember_swap (h : r.Lawful) {d d₁ d₂ : Draft} {m m' : RawString × Node}
    (hm : r.takeMember d m = .ok d₁) (hm' : r.takeMember d₁ m' = .ok d₂) :
    ∃ d₁', r.takeMember d m' = .ok d₁' ∧ r.takeMember d₁' m = .ok d₂ := by
  simp only [takeMember_eq_ok_iff] at hm hm' ⊢
  obtain ⟨name, hkey, ⟨hnone, hwhole, rfl⟩ | ⟨f, hf, hgiven, hput⟩⟩ := hm
  · exact ⟨d₂, hm', name, hkey, .inl ⟨hnone, hwhole, rfl⟩⟩
  obtain ⟨name', hkey', ⟨hnone', hwhole', rfl⟩ | ⟨g, hg, hgiven', hput'⟩⟩ := hm'
  · exact ⟨d, ⟨name', hkey', .inl ⟨hnone', hwhole', rfl⟩⟩, name, hkey, .inr ⟨f, hf, hgiven, hput⟩⟩
  obtain ⟨hmem, rfl⟩ := mem_of_field? hf
  obtain ⟨hmem', rfl⟩ := mem_of_field? hg
  have hne : f.name ≠ g.name := by
    intro heq
    obtain rfl : f = g := Option.some.inj (hf.symm.trans (heq ▸ hg))
    rw [(h.sound f hmem).isGiven hput] at hgiven'
    cases hgiven'
  obtain ⟨d₁', hput₁, hput₂⟩ := (h.apart_of_ne hmem hmem' hne).put hput hput'
  rw [(h.apart_of_ne hmem hmem' hne).isGiven hput] at hgiven'
  rw [← (h.apart_of_ne hmem' hmem hne.symm).isGiven hput₁] at hgiven
  exact ⟨d₁', ⟨g.name, hkey', .inr ⟨g, hg, hgiven', hput₁⟩⟩, f.name, hkey,
    .inr ⟨f, hf, hgiven, hput₂⟩⟩

/-- Members can be taken in any order. -/
theorem Lawful.takeMembers_perm (h : r.Lawful) {ending : ObjectEnd}
    {ms ms' : List (RawString × Node)} (hperm : ms.Perm ms') {d d' : Draft}
    (htake : r.takeMembers ending d ms = .ok d') : r.takeMembers ending d ms' = .ok d' := by
  induction hperm generalizing d with
  | nil => exact htake
  | cons m _ ih =>
    obtain ⟨d₁, hm, hms⟩ := takeMembers_cons_eq_ok_iff.mp htake
    exact takeMembers_cons_eq_ok_iff.mpr ⟨d₁, hm, ih hms⟩
  | swap m m' _ =>
    obtain ⟨d₁, hm', hrest⟩ := takeMembers_cons_eq_ok_iff.mp htake
    obtain ⟨d₂, hm, hms⟩ := takeMembers_cons_eq_ok_iff.mp hrest
    obtain ⟨d₁', hm, hm'⟩ := h.takeMember_swap hm' hm
    exact takeMembers_cons_eq_ok_iff.mpr
      ⟨d₁', hm, takeMembers_cons_eq_ok_iff.mpr ⟨d₂, hm', hms⟩⟩
  | trans _ _ ih ih' => exact ih' (ih htake)

/-- A member with a name that the record does not define, and any value. -/
def IsExtra (r : RecordType Node Json.Error Draft α) (m : RawString × Node) : Prop :=
  (∃ name, m.1.text = .ok name ∧ name ∉ r.fields.map Record.Field.name) ∧ ∃ s, m.2.Spelled s

/-- Members with other names are read over. -/
theorem takeMembers_extra {ending : ObjectEnd} {extra : List (RawString × Node)}
    (h : ∀ m ∈ extra, r.IsExtra m) (ms : List (RawString × Node)) (d : Draft) :
    r.takeMembers ending d (extra ++ ms) = r.takeMembers ending d ms := by
  induction extra with
  | nil => rfl
  | cons m extra ih =>
    obtain ⟨⟨name, hkey, hname⟩, s, hs⟩ := h m List.mem_cons_self
    have htake : r.takeMember d m = .ok d :=
      takeMember_eq_ok_iff.mpr ⟨name, hkey, .inl ⟨field?_eq_none_iff.mpr hname, hs.isWhole, rfl⟩⟩
    rw [List.cons_append, takeMembers, htake]
    exact ih fun m hm => h m (List.mem_cons_of_mem _ hm)

/-! ### Rearranged records -/

/-- A member with the same key, whose value is the same or was changed as the field of that name
allows. -/
structure MemberChanged (r : RecordType Node Json.Error Draft α)
    (part : String → Node → Node → Prop) (m m' : RawString × Node) : Prop where
  key : m'.1 = m.1
  value : m'.2 = m.2 ∨ ∃ f ∈ r.fields, m.1.text = .ok f.name ∧ part f.name m.2 m'.2

/-- Items that stand for some fields, with values that were changed as these fields allow. -/
inductive FieldsChanged (part : String → Node → Node → Prop) :
    List (Json.Field Draft) → List Node → List Node → Prop
  | same {fields : List (Json.Field Draft)} {vs : List Node} : FieldsChanged part fields vs vs
  | next {f : Json.Field Draft} {fields : List (Json.Field Draft)} {v v' : Node}
      {vs vs' : List Node} : v' = v ∨ part f.name v v' → FieldsChanged part fields vs vs' →
      FieldsChanged part (f :: fields) (v :: vs) (v' :: vs')

/-- A value for a record that was rearranged: the members of an object were permuted and members
with other names put among them, and the values of the fields were changed as `part` allows. -/
inductive Rearranged (r : RecordType Node Json.Error Draft α) (part : String → Node → Node → Prop) :
    Node → Node → Prop
  | object {ms changed extra ms' : List (RawString × Node)} {ending : ObjectEnd} :
      List.Forall₂ (r.MemberChanged part) ms changed → (∀ m ∈ extra, r.IsExtra m) →
      ms'.Perm (extra ++ changed) → Rearranged r part (.object ms ending) (.object ms' ending)
  | list {vs vs' : List Node} {ending : ArrayEnd} : FieldsChanged part r.fields vs vs' →
      Rearranged r part (.array vs ending) (.array vs' ending)

/-- What `part` allows to be done to the value of a field does not matter to the field. -/
def Respects (r : RecordType Node Json.Error Draft α) (part : String → Node → Node → Prop) : Prop :=
  ∀ f ∈ r.fields, ∀ v v', part f.name v v' → ∀ d d', f.put v' d = .ok d' ↔ f.put v d = .ok d'

variable {part : String → Node → Node → Prop}

theorem Respects.takeMember_changed (h : r.Respects part) {m m' : RawString × Node}
    (hm : r.MemberChanged part m m') (d d' : Draft) :
    r.takeMember d m' = .ok d' ↔ r.takeMember d m = .ok d' := by
  obtain ⟨hkey, hsame | ⟨f, hf, hname, hchanged⟩⟩ := hm
  · rw [Prod.ext hkey hsame]
  · have hfield : ∀ g, r.field? f.name = some g →
        (g.put m'.2 d = .ok d' ↔ g.put m.2 d = .ok d') := by
      intro g hg
      obtain ⟨hmem, heq⟩ := mem_of_field? hg
      exact h g hmem _ _ (heq ▸ hchanged) d d'
    have hsome : r.field? f.name ≠ none := fun hnone =>
      field?_eq_none_iff.mp hnone (List.mem_map_of_mem hf)
    simp only [takeMember_eq_ok_iff, hkey, hname, Except.ok.injEq, exists_eq_left', hsome,
      false_and, false_or]
    exact exists_congr fun g => and_congr_right fun hg => and_congr_right fun _ => hfield g hg

theorem Respects.takeMembers_changed (h : r.Respects part) {ending : ObjectEnd}
    {ms ms' : List (RawString × Node)} (hms : List.Forall₂ (r.MemberChanged part) ms ms')
    (d d' : Draft) :
    r.takeMembers ending d ms' = .ok d' ↔ r.takeMembers ending d ms = .ok d' := by
  induction hms generalizing d with
  | nil => rfl
  | cons hm _ ih => simp only [takeMembers_cons_eq_ok_iff, h.takeMember_changed hm, ih]

theorem FieldsChanged.length_eq {fields : List (Json.Field Draft)} {vs vs' : List Node}
    (h : FieldsChanged part fields vs vs') : vs'.length = vs.length := by
  induction h with
  | same => rfl
  | next _ _ ih => rw [List.length_cons, List.length_cons, ih]

theorem takeItems_changed {fields : List (Json.Field Draft)}
    (h : ∀ f ∈ fields, ∀ v v', part f.name v v' →
      ∀ d d', f.put v' d = .ok d' ↔ f.put v d = .ok d')
    {vs vs' : List Node} (hvs : FieldsChanged part fields vs vs') (d : Draft)
    (result : Draft × List Node) :
    takeItems fields d vs' = .ok result ↔ takeItems fields d vs = .ok result := by
  induction hvs generalizing d with
  | same => rfl
  | next hv _ ih =>
    have ih := ih fun g hg => h g (List.mem_cons_of_mem _ hg)
    simp only [takeItems_cons_eq_ok_iff, ih]
    rcases hv with rfl | hv
    · rfl
    · simp only [h _ List.mem_cons_self _ _ hv]

/-- A record is read from a rearranged value exactly if it is read from the value. -/
theorem Lawful.ofNode_rearranged (h : r.Lawful) (hpart : r.Respects part) {v v' : Node}
    (hv : r.Rearranged part v v') (x : α) : r.ofNode v' = .ok x ↔ r.ofNode v = .ok x := by
  cases hv with
  | @object ms changed extra ms' ending hchanged hextra hperm =>
    have htake : ∀ d, r.takeMembers ending r.blank ms' = .ok d ↔
        r.takeMembers ending r.blank ms = .ok d := by
      intro d
      rw [← hpart.takeMembers_changed hchanged, ← takeMembers_extra hextra changed]
      exact ⟨h.takeMembers_perm hperm, h.takeMembers_perm hperm.symm⟩
    simp only [ofNode, ofObject_eq_ok_iff, htake]
  | list hfields =>
    simp only [ofNode, ofList_eq_ok_iff, hfields.length_eq, takeItems_changed hpart hfields]

end RecordType

end Scaffold

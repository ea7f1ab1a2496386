import Mathlib.Data.List.Forall2
import Mathlib.Data.List.Pairwise
import Scaffold.Json.Object
import Scaffold.Proofs.Json.Reading

/-!
# What records are read from

A record is read from a tree that may have faults in it. If its fields take no value with a fault,
the record is read from trees without a fault only: every member and every item is either taken by a
field or skipped, and how an object or a list ends is looked at last. So a record is read from a
text exactly if the text is a document and the record is read from its tree.

## Main definitions

* `Record.Sound`: a field takes only values without a fault, and then is given.
* `Record.Apart`: a field can be given after another one just as well as before.
* `RecordType.Lawful`: the fields of a record are sound and apart.

## Main results

* `RecordType.takeMember_eq_ok_iff`, `RecordType.ofObject_eq_ok_iff`, `RecordType.ofList_eq_ok_iff`:
  when a member, an object and a list of fields are taken.
* `RecordType.Lawful.isWhole_of_ofNode`: a record is read from values without faults only.
* `RecordType.Lawful.parse_eq_ok_iff`: the texts that a record is read from.
-/

namespace Scaffold

open Json (Node RawString ObjectEnd ArrayEnd Spells)

variable {Draft α β γ : Type}

/-! ### Values without faults -/

namespace Json

theorem except_map_eq_ok_iff {ε : Type} {f : α → β} {x : Except ε α} {y : β} :
    x.map f = .ok y ↔ ∃ a, x = .ok a ∧ f a = y := by
  cases x <;> simp [Except.map]

theorem ending_of_joinPieces {ending : StringEnd} {pieces : List Piece} {cs : List Char}
    (h : joinPieces ending pieces = .ok cs) : ending.error? = none := by
  fun_induction joinPieces ending pieces generalizing cs with
  | case1 => cases h
  | case2 hnone => exact hnone
  | case3 _ _ ih | case6 _ _ _ ih | case9 _ _ _ _ _ _ ih | case11 _ _ _ _ _ ih =>
    obtain ⟨_, hrest, -⟩ := except_map_eq_ok_iff.mp h
    exact ih hrest
  | case4 | case5 | case7 | case8 | case10 => cases h

/-- A text that can be joined has no fault. -/
theorem RawString.isWhole_of_text {raw : RawString} {s : String} (h : raw.text = .ok s) :
    raw.IsWhole := by
  obtain ⟨_, hjoin, -⟩ := except_map_eq_ok_iff.mp h
  exact ending_of_joinPieces hjoin

theorem Node.isWhole_of_text {v : Node} {s : String} (h : v.text = .ok s) : v.IsWhole := by
  cases v with
  | string raw =>
    rw [Node.text] at h
    cases hraw : raw.text with
    | error e => rw [hraw] at h; cases h
    | ok s => exact RawString.isWhole_of_text hraw
  | _ => cases h

theorem Node.isWhole_of_optionalText {v : Node} {s : Option String}
    (h : v.optionalText = .ok s) : v.IsWhole := by
  cases v with
  | null => rfl
  | string raw =>
    obtain ⟨_, htext, -⟩ := except_map_eq_ok_iff.mp h
    exact Node.isWhole_of_text htext
  | _ => cases h

theorem ArrayEnd.skipError?_of_error? {ending : ArrayEnd} (h : ending.error? = none) :
    ending.skipError? = none := by
  cases ending <;> simp_all [ArrayEnd.error?, ArrayEnd.skipError?]

theorem mapM_eq_ok_iff {item : Node → Except Json.Error α} {vs : List Node} {xs : List α} :
    vs.mapM item = .ok xs ↔ List.Forall₂ (fun v x => item v = .ok x) vs xs := by
  induction vs generalizing xs with
  | nil => cases xs <;> simp [pure, Except.pure]
  | cons v vs ih =>
    rw [List.mapM_cons]
    cases hv : item v with
    | error e => cases xs <;> simp [bind, Except.bind, hv]
    | ok x =>
      cases hvs : vs.mapM item with
      | error e =>
        cases xs <;> simp [bind, Except.bind, hv, ← ih, hvs]
      | ok ys =>
        cases xs <;> simp [bind, Except.bind, pure, Except.pure, hv, ← ih, hvs]

theorem Node.list_array_eq_ok_iff {item : Node → Except Json.Error α} {items : List Node}
    {ending : ArrayEnd} {xs : List α} :
    Node.list item (.array items ending) = .ok xs ↔
      List.Forall₂ (fun v x => item v = .ok x) items xs ∧ ending.error? = none := by
  rw [Node.list, ← mapM_eq_ok_iff]
  cases items.mapM item <;> cases ending.error? <;> simp

theorem Node.isWhole_of_list {item : Node → Except Json.Error α}
    (hitem : ∀ {v x}, item v = .ok x → v.IsWhole) {v : Node} {xs : List α}
    (h : Node.list item v = .ok xs) : v.IsWhole := by
  cases v with
  | array items ending =>
    obtain ⟨hitems, hending⟩ := Node.list_array_eq_ok_iff.mp h
    refine (Node.isWhole_array_iff _ _).mpr
      ⟨fun v hv => ?_, ArrayEnd.skipError?_of_error? hending⟩
    clear h hending
    induction hitems with
    | nil => cases hv
    | cons hx _ ih =>
      rcases List.mem_cons.mp hv with rfl | hv
      · exact hitem hx
      · exact ih hv
  | _ => cases h

end Json

/-! ### Fields -/

namespace Record

/-- A field that takes only values without a fault, and then is given. -/
structure Sound (f : Json.Field Draft) : Prop where
  isWhole : ∀ {v d d'}, f.put v d = .ok d' → v.IsWhole
  isGiven : ∀ {v d d'}, f.put v d = .ok d' → f.isGiven d' = true

/-- A field that another one can be given after just as well as before. -/
structure Apart (f g : Json.Field Draft) : Prop where
  isGiven : ∀ {v d d'}, f.put v d = .ok d' → g.isGiven d' = g.isGiven d
  put : ∀ {v w d d₁ d₂}, f.put v d = .ok d₁ → g.put w d₁ = .ok d₂ →
    ∃ d₁', g.put w d = .ok d₁' ∧ f.put v d₁' = .ok d₂

section Reading

variable {read : Node → Except Json.Error β} {get : Draft → Option β} {set : Draft → β → Draft}

theorem put_reading_eq_ok_iff {name : String} {isRequired : Bool} {v : Node} {d d' : Draft} :
    (Field.reading name isRequired read get set).put v d = .ok d' ↔
      ∃ x, read v = .ok x ∧ set d x = d' := by
  cases h : read v <;> simp [Field.reading, h, Except.map]

/-- A field is sound if it is given once it is set and reads no value with a fault. -/
theorem Sound.reading {name : String} {isRequired : Bool}
    (hget : ∀ d x, (get (set d x)).isSome = true) (hread : ∀ {v x}, read v = .ok x → v.IsWhole) :
    Sound (.reading name isRequired read get set) where
  isWhole h := by
    obtain ⟨x, hx, -⟩ := put_reading_eq_ok_iff.mp h
    exact hread hx
  isGiven h := by
    obtain ⟨x, -, rfl⟩ := put_reading_eq_ok_iff.mp h
    exact hget _ x

/-- Fields are apart if what they set is. -/
theorem Apart.reading {read' : Node → Except Json.Error γ} {get' : Draft → Option γ}
    {set' : Draft → γ → Draft} {name name' : String} {isRequired isRequired' : Bool}
    (hget : ∀ d x, get' (set d x) = get' d) (hset : ∀ d x y, set' (set d x) y = set (set' d y) x) :
    Apart (.reading name isRequired read get set) (.reading name' isRequired' read' get' set') where
  isGiven h := by
    obtain ⟨x, -, rfl⟩ := put_reading_eq_ok_iff.mp h
    simp only [Field.reading, hget]
  put h h' := by
    obtain ⟨x, hx, rfl⟩ := put_reading_eq_ok_iff.mp h
    obtain ⟨y, hy, rfl⟩ := put_reading_eq_ok_iff.mp h'
    exact ⟨_, put_reading_eq_ok_iff.mpr ⟨y, hy, rfl⟩,
      put_reading_eq_ok_iff.mpr ⟨x, hx, (hset _ x y).symm⟩⟩

/-- Two fields are apart from each other if what they set is. -/
theorem apart_reading {read' : Node → Except Json.Error γ} {get' : Draft → Option γ}
    {set' : Draft → γ → Draft} {name name' : String} {isRequired isRequired' : Bool}
    (hget : ∀ d x, get' (set d x) = get' d) (hget' : ∀ d x, get (set' d x) = get d)
    (hset : ∀ d x y, set' (set d x) y = set (set' d y) x) :
    Apart (.reading name isRequired read get set) (.reading name' isRequired' read' get' set') ∧
      Apart (.reading name' isRequired' read' get' set') (.reading name isRequired read get set) :=
  ⟨.reading hget hset, .reading hget' fun d x y => (hset d y x).symm⟩

end Reading

end Record

namespace RecordType

open Record (Sound Apart)

/-- A record whose fields are sound and apart from each other. -/
structure Lawful (r : RecordType Node Json.Error Draft α) : Prop where
  sound : ∀ f ∈ r.fields, Sound f
  apart : r.fields.Pairwise fun f g => Apart f g ∧ Apart g f

variable {r : RecordType Node Json.Error Draft α}

theorem mem_of_field? {name : String} {f : Json.Field Draft} (h : r.field? name = some f) :
    f ∈ r.fields ∧ f.name = name :=
  ⟨List.mem_of_find?_eq_some h, by simpa using List.find?_some h⟩

theorem field?_eq_none_iff {name : String} :
    r.field? name = none ↔ name ∉ r.fields.map Record.Field.name := by
  simp [field?]

/-- Fields of different names are apart. -/
theorem Lawful.apart_of_ne (h : r.Lawful) {f g : Json.Field Draft} (hf : f ∈ r.fields)
    (hg : g ∈ r.fields) (hne : f.name ≠ g.name) : Apart f g := by
  have hsymm : Std.Symm fun f g : Json.Field Draft => Apart f g ∧ Apart g f :=
    ⟨fun _ _ h => h.symm⟩
  exact (h.apart.forall hf hg fun heq => hne (heq ▸ rfl)).1

/-! ### Members -/

theorem skip_eq_ok_iff (v : Node) {d d' : Draft} :
    v.skip.map (fun _ => d) = .ok d' ↔ v.IsWhole ∧ d' = d := by
  rw [Node.skip, Node.IsWhole]
  cases v.skipError? <;> simp [Except.map, eq_comm]

theorem takeMember_eq_ok_iff {d d' : Draft} {m : RawString × Node} :
    r.takeMember d m = .ok d' ↔ ∃ name, m.1.text = .ok name ∧
      (r.field? name = none ∧ m.2.IsWhole ∧ d' = d ∨
        ∃ f, r.field? name = some f ∧ f.isGiven d = false ∧ f.put m.2 d = .ok d') := by
  rw [takeMember, fieldOfKey]
  cases hkey : m.1.text with
  | error e => simp
  | ok name =>
    cases hfield : r.field? name with
    | none => simp [skip_eq_ok_iff, hfield]
    | some f => cases hgiven : f.isGiven d <;> simp [hgiven, hfield]

theorem takeMembers_cons_eq_ok_iff {ending : ObjectEnd} {d d' : Draft} {m : RawString × Node}
    {ms : List (RawString × Node)} :
    r.takeMembers ending d (m :: ms) = .ok d' ↔
      ∃ d₁, r.takeMember d m = .ok d₁ ∧ r.takeMembers ending d₁ ms = .ok d' := by
  rw [takeMembers]
  cases r.takeMember d m <;> simp

/-! ### Records -/

theorem isWhole_of_takeMember (h : r.Lawful) {d d' : Draft} {m : RawString × Node}
    (htake : r.takeMember d m = .ok d') : m.1.IsWhole ∧ m.2.IsWhole := by
  obtain ⟨name, hkey, ⟨-, hwhole, -⟩ | ⟨f, hf, -, hput⟩⟩ := takeMember_eq_ok_iff.mp htake
  · exact ⟨RawString.isWhole_of_text hkey, hwhole⟩
  · exact ⟨RawString.isWhole_of_text hkey, (h.sound f (mem_of_field? hf).1).isWhole hput⟩

theorem takeMembers_nil_eq_ok {ending : ObjectEnd} {d d' : Draft}
    (h : r.takeMembers ending d [] = .ok d') : ending.error? = none := by
  rw [takeMembers] at h
  split at h
  · cases h
  · split at h
    · cases h
    · assumption

theorem isWhole_of_takeMembers (h : r.Lawful) {ending : ObjectEnd} {ms : List (RawString × Node)}
    {d d' : Draft} (htake : r.takeMembers ending d ms = .ok d') :
    (Node.object ms ending).IsWhole := by
  rw [Node.isWhole_object_iff]
  induction ms generalizing d with
  | nil =>
    have hending := takeMembers_nil_eq_ok htake
    refine ⟨by simp, ?_⟩
    cases ending with
    | noColon key atEnd => cases atEnd <;> cases hending
    | _ => simp_all [ObjectEnd.error?, ObjectEnd.skipError?]
  | cons m ms ih =>
    obtain ⟨d₁, hm, hms⟩ := takeMembers_cons_eq_ok_iff.mp htake
    exact ⟨List.forall_mem_cons.mpr ⟨isWhole_of_takeMember h hm, (ih hms).1⟩, (ih hms).2⟩

theorem ofObject_eq_ok_iff {ms : List (RawString × Node)} {ending : ObjectEnd} {x : α} :
    r.ofObject ms ending = .ok x ↔
      ∃ d, r.takeMembers ending r.blank ms = .ok d ∧ r.close d = .ok x := by
  rw [ofObject]
  cases r.takeMembers ending r.blank ms with
  | error e => simp
  | ok d => cases hclose : r.close d <;> simp [hclose, Except.mapError]

theorem takeItems_cons_eq_ok_iff {f : Json.Field Draft} {fields : List (Json.Field Draft)}
    {d : Draft} {v : Node} {vs : List Node} {result : Draft × List Node} :
    takeItems (f :: fields) d (v :: vs) = .ok result ↔
      ∃ d₁, f.put v d = .ok d₁ ∧ takeItems fields d₁ vs = .ok result := by
  rw [takeItems]
  cases f.put v d <;> simp

theorem isWhole_of_takeItems {fields : List (Json.Field Draft)} (h : ∀ f ∈ fields, Sound f)
    {d d' : Draft} {vs : List Node} (htake : takeItems fields d vs = .ok (d', [])) :
    ∀ v ∈ vs, v.IsWhole := by
  induction fields generalizing d vs with
  | nil =>
    cases vs with
    | nil => simp
    | cons v vs => simp [takeItems] at htake
  | cons f fields ih =>
    cases vs with
    | nil => simp
    | cons v vs =>
      obtain ⟨d₁, hput, hrest⟩ := takeItems_cons_eq_ok_iff.mp htake
      exact List.forall_mem_cons.mpr ⟨(h f List.mem_cons_self).isWhole hput,
        ih (fun g hg => h g (List.mem_cons_of_mem _ hg)) hrest⟩

/-- What the list of the fields of a record has to satisfy behind its last item. -/
def EndsList (r : RecordType Node Json.Error Draft α) (length : Nat) (ending : ArrayEnd)
    (d : Draft) (x : α) : Prop :=
  if length < r.fields.length then ending.error? = none ∧ r.closeShort length d = .ok x
  else ending.extraError? = none ∧ r.finish d = x

theorem ofList_eq_ok_iff {vs : List Node} {ending : ArrayEnd} {x : α} :
    r.ofList vs ending = .ok x ↔
      ∃ d, takeItems r.fields r.blank vs = .ok (d, []) ∧ r.EndsList vs.length ending d x := by
  rw [ofList]
  cases takeItems r.fields r.blank vs with
  | error e => simp
  | ok result =>
    obtain ⟨d, _ | ⟨v, rest⟩⟩ := result
    · simp only [EndsList, Except.ok.injEq, Prod.mk.injEq, and_true, exists_eq_left']
      split_ifs
      · cases ending.error? <;> cases r.closeShort vs.length d <;>
          simp [Except.mapError]
      · cases ending.extraError? <;> simp
    · simp

/-- A record is read from values without faults only. -/
theorem Lawful.isWhole_of_ofNode (h : r.Lawful) {v : Node} {x : α} (hv : r.ofNode v = .ok x) :
    v.IsWhole := by
  cases v with
  | object ms ending =>
    obtain ⟨d, htake, -⟩ := ofObject_eq_ok_iff.mp hv
    exact isWhole_of_takeMembers h htake
  | array vs ending =>
    obtain ⟨d, htake, hend⟩ := ofList_eq_ok_iff.mp hv
    refine (Node.isWhole_array_iff _ _).mpr ⟨isWhole_of_takeItems h.sound htake, ?_⟩
    rw [EndsList] at hend
    split_ifs at hend
    · exact ArrayEnd.skipError?_of_error? hend.1
    · have hextra := hend.1
      cases ending <;> simp_all [ArrayEnd.extraError?, ArrayEnd.skipError?]
  | _ => cases hv

theorem parse_eq_ok_iff_read {text : String} {x : α} :
    r.parse text = .ok x ↔ r.ofNode (Json.read text.toList).1 = .ok x ∧
      Json.skipBlanks ((Json.read text.toList).2.getD []) = [] := by
  rw [parse]
  dsimp only
  by_cases hend : Json.skipBlanks ((Json.read text.toList).2.getD []) = [] <;>
    cases r.ofNode (Json.read text.toList).1 <;> simp [hend]

/-- The texts that a record is read from are the documents whose trees it is read from. -/
theorem Lawful.parse_eq_ok_iff (h : r.Lawful) {text : String} {x : α} :
    r.parse text = .ok x ↔ ∃ v, Spells text v ∧ r.ofNode v = .ok x := by
  rw [parse_eq_ok_iff_read]
  constructor
  · rintro ⟨hv, hend⟩
    have hread := Json.readValue_readFrom _ text.toList (Nat.le_succ _)
    rw [← Json.read.eq_def] at hread
    cases hresult : Json.read text.toList with
    | mk v rest =>
      rw [hresult] at hread hv hend
      cases hread with
      | faulty hfault => exact absurd (h.isWhole_of_ofNode hv) hfault
      | whole hs htext =>
        exact ⟨v, Json.spells_of_read hresult (List.dropWhile_eq_nil_iff.mp hend), hv⟩
  · rintro ⟨v, htext, hv⟩
    obtain ⟨after, hafter, hread⟩ := Json.read_spells htext
    rw [hread]
    exact ⟨hv, List.dropWhile_eq_nil_iff.mpr hafter⟩

end RecordType

end Scaffold

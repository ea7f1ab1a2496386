import Scaffold.Failure
import Scaffold.Proofs.Diagram.Lookup
import Scaffold.Proofs.Naming.Characters

/-!
# Normal forms and repeated identifiers

Texts without white space at their ends are not trimmed any further. In the normal form of a diagram
there are no others, and no class has a blank identifier, since a type identifier is never blank. So
bringing a normal form into its normal form changes nothing.

A diagram is refused for the first class whose identifier was there before. A blank identifier does
not count, but in the normal form there is none: it was filled in, and what was filled in may be the
identifier of another class. So the check is passed by fewer normal forms than diagrams. An index
keeps the first of several classes with one identifier and says nothing about the others; when the
normal form passes the check, there are no others, and every class is found.

## Main definitions

* `ClassBox.SameId`: two classes have the same identifier, which is not blank.
* `FirstRepeat`: the first class that repeats an identifier.
* `Diagram.NothingHidden`: every class is found under its own identifier.

## Main results

* `ClassBox.id_normalize`: the identifier of a class in normal form.
* `Diagram.normalize_normalize`: a normal form is its own normal form.
* `firstRepeated_cons`: what one step of the check does.
* `Diagram.duplicate?_eq_some_iff`, `Diagram.duplicate?_eq_none_iff`: what the check finds.
* `Diagram.nothingHidden_iff`: when every class is found.
* `Diagram.validate_outcome`: how the check, the normal form and the index fit together.
-/

namespace Scaffold

/-! ### Normal forms -/

theorem Attribute.normalize_normalize (a : Attribute) : a.normalize.normalize = a.normalize := by
  simp [Attribute.normalize, Text.trim_trim]

theorem Method.normalize_normalize (m : Method) : m.normalize.normalize = m.normalize := by
  simp [Method.normalize, Text.trim_trim, Function.comp_def]

theorem Relationship.normalize_normalize (r : Relationship) :
    r.normalize.normalize = r.normalize := by
  simp [Relationship.normalize, Text.trim_trim, Function.comp_def]

/-- The identifier of a class in normal form is trimmed and not blank. -/
theorem ClassBox.id_normalize (c : ClassBox) :
    Text.trim c.normalize.id = c.normalize.id ∧ c.normalize.id ≠ "" := by
  simp only [ClassBox.normalize]
  split_ifs with hblank
  · exact ⟨Naming.trim_entityName _, Naming.entityName_ne_empty _⟩
  · exact ⟨Text.trim_trim _, hblank⟩

theorem ClassBox.normalize_eq_self {c : ClassBox} (hid : Text.trim c.id = c.id) (hne : c.id ≠ "")
    (hname : Text.trim c.name = c.name)
    (hattributes : c.attributes.map Attribute.normalize = c.attributes)
    (hmethods : c.methods.map Method.normalize = c.methods) : c.normalize = c := by
  simp only [ClassBox.normalize, hid, if_neg hne, hname, hattributes, hmethods]

theorem ClassBox.normalize_normalize (c : ClassBox) : c.normalize.normalize = c.normalize := by
  refine ClassBox.normalize_eq_self c.id_normalize.1 c.id_normalize.2 ?_ ?_ ?_
  · exact Text.trim_trim c.name
  · simp [ClassBox.normalize, Attribute.normalize_normalize]
  · simp [ClassBox.normalize, Method.normalize_normalize]

namespace Diagram

/-- A normal form is its own normal form. -/
theorem normalize_normalize (d : Diagram) : d.normalize.normalize = d.normalize := by
  simp [normalize, ClassBox.normalize_normalize, Relationship.normalize_normalize]

end Diagram

/-! ### Repeated identifiers -/

/-- Two classes have the same identifier, which is not blank. -/
def ClassBox.SameId (a b : ClassBox) : Prop :=
  Text.trim a.id ≠ "" ∧ Text.trim a.id = Text.trim b.id

instance (a b : ClassBox) : Decidable (a.SameId b) :=
  inferInstanceAs (Decidable (_ ∧ _))

variable {prev rest : List ClassBox} {a b c : ClassBox} {seen : List String}

/-! ### One class after the other -/

/-- The identifiers that are not blank among those of the classes that were passed. -/
def Seen (prev : List ClassBox) (seen : List String) : Prop :=
  ∀ id, id ∈ seen ↔ id ≠ "" ∧ ∃ b ∈ prev, Text.trim b.id = id

theorem Seen.nil : Seen [] [] := by
  simp [Seen]

theorem Seen.mem_iff (h : Seen prev seen) (a : ClassBox) :
    Text.trim a.id ∈ seen ↔ ∃ b ∈ prev, b.SameId a := by
  rw [h]
  constructor
  · rintro ⟨hne, b, hb, hid⟩
    exact ⟨b, hb, by rwa [hid], hid⟩
  · rintro ⟨b, hb, hne, hid⟩
    exact ⟨hid ▸ hne, b, hb, hid⟩

theorem Seen.concat_blank (h : Seen prev seen) (ha : Text.trim a.id = "") :
    Seen (prev ++ [a]) seen := by
  intro id
  rw [h, and_congr_right_iff]
  intro hne
  constructor
  · rintro ⟨b, hb, hid⟩
    exact ⟨b, List.mem_append_left _ hb, hid⟩
  · rintro ⟨b, hb, hid⟩
    rcases List.mem_append.mp hb with hb | hb
    · exact ⟨b, hb, hid⟩
    · obtain rfl := List.mem_singleton.mp hb
      exact absurd (hid.symm.trans ha) hne

theorem Seen.concat (h : Seen prev seen) (ha : Text.trim a.id ≠ "") :
    Seen (prev ++ [a]) (Text.trim a.id :: seen) := by
  intro id
  rw [List.mem_cons, h]
  constructor
  · rintro (rfl | ⟨hne, b, hb, hid⟩)
    · exact ⟨ha, a, by simp, rfl⟩
    · exact ⟨hne, b, List.mem_append_left _ hb, hid⟩
  · rintro ⟨hne, b, hb, hid⟩
    rcases List.mem_append.mp hb with hb | hb
    · exact .inr ⟨hne, b, hb, hid⟩
    · obtain rfl := List.mem_singleton.mp hb
      exact .inl hid.symm

/-- One step of the check: it ends at a class that repeats an identifier, and passes any other. -/
theorem firstRepeated_cons (h : Seen prev seen) (a : ClassBox) (rest : List ClassBox) :
    (∃ b ∈ prev, b.SameId a) ∧ Diagram.firstRepeated seen (a :: rest) = some a ∨
      (∀ b ∈ prev, ¬ b.SameId a) ∧ ∃ seen', Seen (prev ++ [a]) seen' ∧
        Diagram.firstRepeated seen (a :: rest) = Diagram.firstRepeated seen' rest := by
  rw [Diagram.firstRepeated]
  by_cases hblank : Text.trim a.id = ""
  · right
    rw [if_pos hblank]
    exact ⟨fun b _ hsame => hsame.1 (hsame.2.trans hblank), seen, h.concat_blank hblank, rfl⟩
  · rw [if_neg hblank]
    by_cases hmem : Text.trim a.id ∈ seen
    · left
      rw [if_pos hmem]
      exact ⟨(h.mem_iff a).mp hmem, rfl⟩
    · right
      rw [if_neg hmem]
      refine ⟨fun b hb hsame => hmem ((h.mem_iff a).mpr ⟨b, hb, hsame⟩), _, h.concat hblank, rfl⟩

/-- None of some classes repeats the identifier of another. -/
def Unrepeated (classes : List ClassBox) : Prop :=
  classes.Pairwise fun a b => ¬ a.SameId b

instance (classes : List ClassBox) : Decidable (Unrepeated classes) :=
  inferInstanceAs (Decidable (classes.Pairwise fun a b => ¬ a.SameId b))

theorem Unrepeated.concat_iff :
    Unrepeated (prev ++ [a]) ↔ Unrepeated prev ∧ ∀ b ∈ prev, ¬ b.SameId a := by
  simp [Unrepeated, List.pairwise_append]

/-- The class `c` is the first of some classes that repeats the identifier of another, where `prev`
were passed in front of them. -/
def FirstRepeat (prev rest : List ClassBox) (c : ClassBox) : Prop :=
  ∃ before after, rest = before ++ c :: after ∧ Unrepeated (prev ++ before) ∧
    ∃ b ∈ prev ++ before, b.SameId c

theorem firstRepeat_cons_of_repeats (hprev : Unrepeated prev) (ha : ∃ b ∈ prev, b.SameId a) :
    FirstRepeat prev (a :: rest) c ↔ c = a := by
  constructor
  · rintro ⟨before, after, heq, hapart, -⟩
    cases before with
    | nil => exact (List.cons.inj heq).1.symm
    | cons first before =>
      obtain ⟨rfl, -⟩ := List.cons.inj heq
      obtain ⟨b, hb, hsame⟩ := ha
      exact absurd hsame ((List.pairwise_append.mp hapart).2.2 b hb a List.mem_cons_self)
  · rintro rfl
    exact ⟨[], rest, rfl, by simpa using hprev, by simpa using ha⟩

theorem firstRepeat_cons_of_fresh (ha : ∀ b ∈ prev, ¬ b.SameId a) :
    FirstRepeat prev (a :: rest) c ↔ FirstRepeat (prev ++ [a]) rest c := by
  constructor
  · rintro ⟨before, after, heq, hapart, hrepeats⟩
    cases before with
    | nil =>
      obtain ⟨rfl, -⟩ := List.cons.inj heq
      obtain ⟨b, hb, hsame⟩ := hrepeats
      exact absurd hsame (ha b (by simpa using hb))
    | cons first before =>
      obtain ⟨rfl, rfl⟩ := List.cons.inj heq
      rw [← List.singleton_append, ← List.append_assoc] at hapart hrepeats
      exact ⟨before, after, rfl, hapart, hrepeats⟩
  · rintro ⟨before, after, rfl, hapart, hrepeats⟩
    rw [List.append_assoc, List.singleton_append] at hapart hrepeats
    exact ⟨a :: before, after, rfl, hapart, hrepeats⟩

theorem firstRepeated_eq_some_iff (h : Seen prev seen) (hprev : Unrepeated prev) :
    Diagram.firstRepeated seen rest = some c ↔ FirstRepeat prev rest c := by
  induction rest generalizing prev seen with
  | nil => simp [Diagram.firstRepeated, FirstRepeat]
  | cons a rest ih =>
    rcases firstRepeated_cons h a rest with ⟨hrepeats, hfound⟩ | ⟨hfresh, seen', hseen, hpassed⟩
    · rw [hfound, firstRepeat_cons_of_repeats hprev hrepeats, Option.some.injEq, eq_comm]
    · rw [hpassed, firstRepeat_cons_of_fresh hfresh,
        ih hseen (Unrepeated.concat_iff.mpr ⟨hprev, hfresh⟩)]

theorem firstRepeated_eq_none_iff (h : Seen prev seen) (hprev : Unrepeated prev) :
    Diagram.firstRepeated seen rest = none ↔ Unrepeated (prev ++ rest) := by
  induction rest generalizing prev seen with
  | nil => simpa [Diagram.firstRepeated] using hprev
  | cons a rest ih =>
    rcases firstRepeated_cons h a rest with ⟨hrepeats, hfound⟩ | ⟨hfresh, seen', hseen, hpassed⟩
    · rw [hfound]
      refine ⟨fun hnone => (nomatch hnone), fun hapart => ?_⟩
      obtain ⟨b, hb, hsame⟩ := hrepeats
      exact absurd hsame ((List.pairwise_append.mp hapart).2.2 b hb a List.mem_cons_self)
    · rw [hpassed, ih hseen (Unrepeated.concat_iff.mpr ⟨hprev, hfresh⟩), List.append_assoc,
        List.singleton_append]

namespace Diagram

/-! ### The check -/

theorem duplicate?_eq_some_iff {d : Diagram} : d.duplicate? = some c ↔ FirstRepeat [] d.classes c :=
  firstRepeated_eq_some_iff .nil .nil

theorem duplicate?_eq_none_iff {d : Diagram} : d.duplicate? = none ↔ Unrepeated d.classes :=
  firstRepeated_eq_none_iff .nil .nil

theorem validate_eq_ok_iff {d : Diagram} {u : Unit} :
    d.validate = .ok u ↔ d.duplicate? = none := by
  rw [validate]
  cases d.duplicate? <;> simp

theorem validate_eq_error_iff {d : Diagram} {e : DiagramError} :
    d.validate = .error e ↔
      ∃ c, d.duplicate? = some c ∧ e = .duplicateId (Text.trim c.id) c.name := by
  rw [validate]
  cases d.duplicate? with
  | none => simp
  | some c => simp [eq_comm]

/-- What is refused has classes whose identifiers are not all different. -/
theorem exists_validate_eq_error_iff_not_unrepeated {d : Diagram} :
    (∃ e, d.validate = .error e) ↔ ¬ Unrepeated d.classes := by
  rw [← duplicate?_eq_none_iff, ← validate_eq_ok_iff (u := ())]
  cases d.validate <;> simp

/-- The check fails exactly if two classes have the same identifier. -/
theorem exists_validate_eq_error_iff {d : Diagram} :
    (∃ e, d.validate = .error e) ↔
      ∃ (i j : Nat) (a b : ClassBox), i < j ∧ d.classes[i]? = some a ∧ d.classes[j]? = some b ∧
        a.SameId b := by
  rw [exists_validate_eq_error_iff_not_unrepeated, Unrepeated, List.pairwise_iff_getElem]
  push Not
  constructor
  · rintro ⟨i, j, hi, hj, hlt, hsame⟩
    exact ⟨i, j, _, _, hlt, List.getElem?_eq_getElem hi, List.getElem?_eq_getElem hj, hsame⟩
  · rintro ⟨i, j, a, b, hlt, ha, hb, hsame⟩
    obtain ⟨hi, rfl⟩ := List.getElem?_eq_some_iff.mp ha
    obtain ⟨hj, rfl⟩ := List.getElem?_eq_some_iff.mp hb
    exact ⟨i, j, hi, hj, hlt, hsame⟩

end Diagram

/-! ### The check of a normal form -/

/-- In normal form classes have the same identifier as soon as they have it at all. -/
theorem ClassBox.sameId_normalize_iff :
    a.normalize.SameId b.normalize ↔ a.normalize.id = b.normalize.id := by
  rw [SameId, a.id_normalize.1, b.id_normalize.1]
  exact and_iff_right a.id_normalize.2

theorem ClassBox.SameId.normalize (h : a.SameId b) : a.normalize.SameId b.normalize := by
  obtain ⟨hne, hid⟩ := h
  rw [ClassBox.sameId_normalize_iff]
  simp only [ClassBox.normalize, ← hid, if_neg hne]

namespace Diagram

variable {d : Diagram}

theorem unrepeated_normalize_iff : Unrepeated d.normalize.classes ↔ d.normalize.DistinctIds := by
  simp only [Unrepeated, DistinctIds, List.Nodup, normalize, List.map_map, List.pairwise_map,
    ClassBox.sameId_normalize_iff, Function.comp_apply, ne_eq]

/-- The check of a normal form finds nothing exactly if all identifiers are different. -/
theorem duplicate?_normalize_eq_none_iff (d : Diagram) :
    d.normalize.duplicate? = none ↔ (d.normalize.classes.map ClassBox.id).Nodup :=
  duplicate?_eq_none_iff.trans unrepeated_normalize_iff

/-- What is refused is refused in normal form, too. -/
theorem unrepeated_of_normalize (h : Unrepeated d.normalize.classes) : Unrepeated d.classes := by
  rw [Unrepeated, normalize, List.pairwise_map] at h
  exact h.imp (mt ClassBox.SameId.normalize)

/-! ### What is found -/

/-- Every class is in the table under its own identifier, in order, and is found there; no class at
another position has that identifier; and a relationship leads to the classes that it names. -/
structure NothingHidden (d : Diagram) : Prop where
  entered : (Index.ofDiagram d).byId.entries = d.classes.map fun c => (c.id, c)
  found : ∀ c ∈ d.classes, (Index.ofDiagram d).findId? c.id = some c
  alone : ∀ (i j : Nat) (a b : ClassBox), d.classes[i]? = some a → d.classes[j]? = some b →
    a.id = b.id → i = j
  resolved : ∀ r : Relationship, ∀ source ∈ d.classes, ∀ target ∈ d.classes,
    r.sourceId = source.id → r.targetId = target.id →
      (Index.ofDiagram d).ends r = some (source, target)

/-- Nothing is hidden exactly if the classes have different identifiers. -/
theorem nothingHidden_iff : d.NothingHidden ↔ d.DistinctIds := by
  constructor
  · intro h
    rw [DistinctIds, List.Nodup, List.pairwise_map, List.pairwise_iff_getElem]
    intro i j hi hj hlt hid
    have heq := h.alone i j _ _ (List.getElem?_eq_getElem hi) (List.getElem?_eq_getElem hj) hid
    omega
  · intro h
    refine ⟨?_, fun c hc => h.findId?_eq_some_iff.mpr ⟨hc, rfl⟩, ?_, ?_⟩
    · have hentries := FirstWins.entries_foldl_enter (t := .empty) h fun c _ => rfl
      simpa [Index.ofDiagram, FirstWins.empty] using hentries
    · intro i j a b ha hb hid
      obtain ⟨hi, rfl⟩ := List.getElem?_eq_some_iff.mp ha
      refine (List.getElem?_inj (by simpa using hi) h).mp ?_
      rw [List.getElem?_map, List.getElem?_map, ha, hb, Option.map_some, Option.map_some, hid]
    · intro r source hsource target htarget hsourceId htargetId
      exact h.ends_eq_some_iff.mpr ⟨⟨hsource, hsourceId.symm⟩, htarget, htargetId.symm⟩

/-- **The check, the normal form and the index.** The check fails exactly if two classes have the
same identifier, and then it names the first class in order that repeats one. A diagram that is
refused is refused in normal form, too. And the normal form passes exactly if the index hides
nothing of it. -/
theorem validate_outcome (d : Diagram) :
    ((∃ e, d.validate = .error e) ↔
      ∃ (i j : Nat) (a b : ClassBox), i < j ∧ d.classes[i]? = some a ∧ d.classes[j]? = some b ∧
        a.SameId b) ∧
    (∀ e, d.validate = .error e ↔
      ∃ before c after, d.classes = before ++ c :: after ∧ Unrepeated before ∧
        (∃ b ∈ before, b.SameId c) ∧ e = .duplicateId (Text.trim c.id) c.name) ∧
    ((∃ e, d.validate = .error e) → ∃ e, d.normalize.validate = .error e) ∧
    (d.normalize.validate = .ok () ↔ d.normalize.NothingHidden) := by
  refine ⟨exists_validate_eq_error_iff, fun e => ?_, fun hfails => ?_, ?_⟩
  · rw [validate_eq_error_iff]
    constructor
    · rintro ⟨c, hfound, rfl⟩
      obtain ⟨before, after, hclasses, hapart, hrepeats⟩ := duplicate?_eq_some_iff.mp hfound
      exact ⟨before, c, after, hclasses, hapart, hrepeats, rfl⟩
    · rintro ⟨before, c, after, hclasses, hapart, hrepeats, rfl⟩
      exact ⟨c, duplicate?_eq_some_iff.mpr ⟨before, after, hclasses, hapart, hrepeats⟩, rfl⟩
  · rw [exists_validate_eq_error_iff_not_unrepeated] at hfails ⊢
    exact mt unrepeated_of_normalize hfails
  · rw [nothingHidden_iff, validate_eq_ok_iff, duplicate?_eq_none_iff, unrepeated_normalize_iff]

/-- Two diagrams with a blank identifier: in the first an identifier is repeated behind it, in the
second what is filled in is not there before. -/
theorem validate_outcome_blank :
    Diagram.validate ⟨[.named " a " "A", .named "" "B", .named "a" "C"], []⟩ =
        .error (.duplicateId "a" "C") ∧
      (∃ e, (normalize ⟨[.named " a " "A", .named "" "B", .named "a" "C"], []⟩).validate =
        .error e) ∧
      (normalize ⟨[.named "a" "A", .named "" "B"], []⟩).NothingHidden := by
  obtain ⟨-, hfirst, hnormal, -⟩ :=
    validate_outcome ⟨[.named " a " "A", .named "" "B", .named "a" "C"], []⟩
  have hrefused := (hfirst (.duplicateId "a" "C")).mpr
    ⟨[.named " a " "A", .named "" "B"], .named "a" "C", [], rfl, by decide +kernel,
      ⟨.named " a " "A", by simp, by decide +kernel⟩, by decide +kernel⟩
  obtain ⟨-, -, -, hhidden⟩ := validate_outcome ⟨[.named "a" "A", .named "" "B"], []⟩
  exact ⟨hrefused, hnormal ⟨_, hrefused⟩, hhidden.mp (by decide +kernel)⟩

end Diagram

end Scaffold

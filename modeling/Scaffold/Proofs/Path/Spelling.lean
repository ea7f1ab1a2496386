import Scaffold.Proofs.Path.Names

/-!
# Paths that are put together

A path can spell its location in many ways, but one that is joined from names, one at a time, does
it in one: its text is the names of its location with single slashes between them. So whoever prints
the text and whoever follows the path name the same place.

Joining a relative path to another appends components and changes none of those in front. How the
front is spelled does not matter for that, not even whether it ends in a slash; only an empty front
is different, because a dot at the start of what follows then counts.

## Main definitions

* `Path.IsPlainName`: a name that stands for itself in every path.
* `Path.Joined`: paths that are joined from such names.

## Main results

* `Path.Joined.ofNames`: such a path has nothing but names in it.
* `Path.Joined.text_eq`: its text is spelled by its location.
* `Path.components_join`: the components of a path that is put together.
* `Path.components_join_name`: one name adds one component.
-/

namespace Scaffold

open FileSystem (segments isName)

namespace Path

/-- A name that stands for itself in every path: there is something in it, it is not one of those
that every directory has, and no character in it means anything in a path. -/
structure IsPlainName (n : String) : Prop where
  ne_empty : n ≠ ""
  name : isName n = true
  no_slash : '/' ∉ n.toList
  no_backslash : '\\' ∉ n.toList

instance (n : String) : Decidable (IsPlainName n) :=
  decidable_of_iff (n ≠ "" ∧ isName n = true ∧ '/' ∉ n.toList ∧ '\\' ∉ n.toList)
    ⟨fun ⟨h, h', hslash, hback⟩ => ⟨h, h', hslash, hback⟩,
      fun ⟨h, h', hslash, hback⟩ => ⟨h, h', hslash, hback⟩⟩

/-- Paths that are joined from plain names. -/
inductive Joined : Path → Prop
  | name {n : String} (h : IsPlainName n) : Joined ⟨n⟩
  | join {p q : Path} (hp : Joined p) (hq : Joined q) : Joined (p.join q)

variable {p q : Path}

theorem Joined.ofNames (h : p.Joined) : p.OfNames := by
  induction h with
  | name h =>
    refine ofNames_of_forall h.name fun c hc => ⟨?_, ?_⟩
    · rintro rfl
      exact h.no_slash hc
    · rintro rfl
      exact h.no_backslash hc
  | join _ _ ihp ihq => exact ihp.join ihq

/-- Joining plain names to a path, one after the other. -/
theorem Joined.foldl (hp : p.Joined) (names : List String) (h : ∀ n ∈ names, IsPlainName n) :
    (names.foldl (fun p n => p.join ⟨n⟩) p).Joined := by
  induction names generalizing p with
  | nil => exact hp
  | cons n names ih =>
    exact ih (hp.join (.name (h n List.mem_cons_self))) fun m hm => h m (List.mem_cons_of_mem n hm)

/-! ### Texts -/

/-- A text that is spelled by the segments of a path, of which there is at least one, and that does
not end in a slash. -/
structure Spelled (p : Path) : Prop where
  text_eq : p.text = "/".intercalate (segments p)
  segments_ne : segments p ≠ []
  last_ne : p.text.toList.getLast? ≠ some '/'

theorem segments_of_isPlainName {n : String} (h : IsPlainName n) : segments ⟨n⟩ = [n] := by
  have hpiece : Text.fields isSlash n.toList = [n.toList] := by
    refine Text.fields_of_forall_not (fun c hc => ?_) (by simpa using h.ne_empty)
    rw [isSlash, beq_eq_false_iff_ne]
    rintro rfl
    exact h.no_slash hc
  rw [segments, hpiece, List.map_singleton, String.ofList_toList]

theorem spelled_of_isPlainName {n : String} (h : IsPlainName n) : Spelled ⟨n⟩ where
  text_eq := by rw [segments_of_isPlainName h, String.intercalate_singleton]
  segments_ne := by simp [segments_of_isPlainName h]
  last_ne hlast := h.no_slash (List.mem_of_getLast? hlast)

theorem Spelled.text_ne (h : p.Spelled) : p.text ≠ "" := by
  intro hempty
  refine h.segments_ne ?_
  rw [segments, hempty]
  rfl

theorem Spelled.join (hp : p.Spelled) (hq : q.Spelled) (hrelative : q.isAbsolute = false) :
    (p.join q).Spelled := by
  have htext : (p.join q).text = p.text ++ "/" ++ q.text := by
    rw [Path.join, if_neg (by simp [hrelative]),
      if_neg (not_or.mpr ⟨hp.text_ne, hp.last_ne⟩)]
  have hsegments : segments (p.join q) = segments p ++ segments q :=
    segments_join hrelative
  refine ⟨?_, ?_, ?_⟩
  · rw [htext, hsegments, String.intercalate_append_of_ne_nil hp.segments_ne hq.segments_ne,
      ← hp.text_eq, ← hq.text_eq]
  · rw [hsegments]
    exact List.append_ne_nil_of_left_ne_nil hp.segments_ne _
  · intro hlast
    rw [htext, String.toList_append, List.getLast?_append, Option.or_eq_some_iff,
      List.getLast?_eq_none_iff, String.toList_eq_nil_iff] at hlast
    exact hlast.elim hq.last_ne fun hempty => hq.text_ne hempty.1

theorem Joined.spelled (h : p.Joined) : p.Spelled := by
  induction h with
  | name h => exact spelled_of_isPlainName h
  | join _ hq ihp ihq => exact ihp.join ihq hq.ofNames.relative

/-- The text of a path that is joined from names is spelled by its location. -/
theorem Joined.text_eq (h : p.Joined) : p.text = "/".intercalate p.location := by
  rw [h.ofNames.location_eq]
  exact h.spelled.text_eq

/-! ### Components -/

/-- What follows a slash adds its components to those in front. -/
theorem componentsOf_append_slash (front back : List Char) :
    componentsOf (front ++ '/' :: back) =
      componentsOf (front ++ ['/']) ++ (Text.splitAt isSlash back).filterMap componentOf? := by
  have hsplit : ∀ rest, Text.splitAt isSlash (front ++ '/' :: rest) =
      Text.splitAt isSlash front ++ Text.splitAt isSlash rest :=
    Text.splitAt_append_separator front rfl
  have hne : Text.splitAt isSlash front ≠ [] := Text.splitAt_ne_nil front
  obtain ⟨piece, pieces, hfront⟩ := List.exists_cons_of_ne_nil hne
  have hhead : ∀ rest, (front ++ '/' :: rest).head? = (front ++ ['/']).head? := by
    intro rest
    cases front <;> rfl
  have hempty : (Text.splitAt isSlash []).filterMap componentOf? = [] := rfl
  simp only [componentsOf, hsplit, hfront, List.cons_append, hhead, List.filterMap_append, hempty,
    List.append_nil, List.append_assoc]

/-- A slash at the end of a text adds no component, unless it stands alone. -/
theorem componentsOf_slash {front : List Char} (hfront : front ≠ []) :
    componentsOf (front ++ ['/']) = componentsOf front := by
  have hsplit : Text.splitAt isSlash (front ++ ['/']) = Text.splitAt isSlash front ++ [[]] :=
    Text.splitAt_append_separator front rfl []
  have hne : Text.splitAt isSlash front ≠ [] := Text.splitAt_ne_nil front
  obtain ⟨piece, pieces, hpieces⟩ := List.exists_cons_of_ne_nil hne
  have hhead : (front ++ ['/']).head? = front.head? := by
    obtain ⟨c, rest, rfl⟩ := List.exists_cons_of_ne_nil hfront
    rfl
  have hempty : [[]].filterMap componentOf? = [] := rfl
  simp only [componentsOf, hsplit, hpieces, List.cons_append, hhead,
    List.filterMap_append, hempty, List.append_nil]

/-- Joining a relative path appends components and changes none of those in front. -/
theorem components_join (hp : p.text ≠ "") (hq : q.isAbsolute = false) :
    (p.join q).components =
      p.components ++ (Text.splitAt isSlash q.text.toList).filterMap componentOf? := by
  have hfront : p.text.toList ≠ [] := by simpa using hp
  rw [join, if_neg (by simp [hq])]
  split_ifs with hlast
  · obtain ⟨front, hslash⟩ := List.getLast?_eq_some_iff.mp (hlast.resolve_left hp)
    rw [components, String.toList_append, hslash, List.append_assoc, List.singleton_append,
      componentsOf_append_slash, components, hslash]
  · have htext : (p.text ++ "/" ++ q.text).toList = p.text.toList ++ '/' :: q.text.toList := by
      simp
    rw [components, htext, componentsOf_append_slash, componentsOf_slash hfront, components]

/-- One name adds one component. -/
theorem components_join_name {n : String} (hp : p.text ≠ "") (hn : IsPlainName n) :
    (p.join ⟨n⟩).components = p.components ++ [.name n] := by
  have hnames : OfNames ⟨n⟩ := (Joined.name hn).ofNames
  have hpiece : Text.splitAt isSlash n.toList = [n.toList] := by
    refine Text.splitAt_of_forall_not fun c hc => ?_
    rw [isSlash, beq_eq_false_iff_ne]
    rintro rfl
    exact hn.no_slash hc
  have hcomponent : componentOf? n.toList = some (.name n) := by
    have hof : isName (String.ofList n.toList) = true := by rw [String.ofList_toList, hn.name]
    simpa using componentOf?_of_name (by simpa using hn.ne_empty) hof
  rw [components_join hp hnames.relative, hpiece, List.filterMap_cons_some hcomponent]
  rfl

theorem text_join_ne (hp : p.text ≠ "") (q : Path) : (p.join q).text ≠ "" := by
  rw [join]
  split_ifs with habsolute
  · rintro hempty
    simp [isAbsolute, hempty] at habsolute
  · simp [hp]
  · simp [hp]

end Path

end Scaffold

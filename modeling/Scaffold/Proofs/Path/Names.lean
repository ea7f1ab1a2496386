import Scaffold.Proofs.Disk.Places

/-!
# Paths inside a directory

A path that does not go up leads to the same location below every directory. Two texts may spell
such a path differently and still lead to the same location, because of the dots in them; but if
there is nothing in them but names, then what they spell, the location and the segments are one and
the same.

A path inside a directory leads to the names among its components. So paths with the same components
lead to the same location; and since a dot at the start is a component but leads nowhere, a path
with such a dot leads to the same location as the path without it. There is no other pair of paths
with different components and the same location.

## Main definitions

* `Path.location`: the location that a path inside a directory leads to from there.
* `Path.OfNames`: a relative path of nothing but names.
* `Path.DotApart`: two paths differ in a dot at the start.

## Main results

* `Path.components_of_not_up`: the components of a path that does not go up.
* `FileSystem.place_join`, `FileSystem.onWay_join`: a path inside a directory leads to its location
  below that directory, and through the locations in between.
* `Path.OfNames.join`, `Path.ofNames_of_forall`: building paths of names.
* `Path.OfNames.same_iff`: paths of names spell the same path if they lead to the same location.
* `Path.components_of_isInner`: the components of a path inside a directory are the names of its
  location, with or without a dot in front.
* `Path.isInner_iff_segments`: which paths lead inside a directory.
* `Path.location_eq_iff`: which paths lead to the same location.
-/

namespace Scaffold

/-- The location that a path inside a directory leads to from there. -/
def Path.location (p : Path) : Location :=
  (FileSystem.segments p).foldl FileSystem.step []

namespace FileSystem

/-- Without going up it makes no difference for the way where one started. -/
theorem foldl_step_eq_append {way : List String} (hup : ".." ∉ way) (l : Location) :
    way.foldl step l = l ++ way.foldl step [] := by
  rw [foldl_step_eq_filter hup l, foldl_step_eq_filter hup [], List.nil_append]

theorem place_join {q : Path} (hq : q.isInner = true) (fs : FileSystem) (p : Path) :
    fs.place (p.join q) = fs.place p ++ q.location := by
  obtain ⟨hrelative, hup⟩ := Path.not_mem_segments_of_isInner hq
  rw [place, place, segments_join hrelative, start_congr rfl (isAbsolute_join hrelative),
    List.foldl_append, foldl_step_eq_append hup]
  rfl

/-- The way to a path inside a directory is the way to that directory and from there on. -/
theorem onWay_join {fs : FileSystem} {p q : Path} {l : Location} (hq : q.isInner = true)
    (hl : fs.OnWay (p.join q) l) :
    fs.OnWay p l ∨ fs.place p <+: l ∧ l <+: fs.place p ++ q.location := by
  obtain ⟨hrelative, hup⟩ := Path.not_mem_segments_of_isInner hq
  obtain ⟨way, ⟨rest, hrest⟩, rfl⟩ := hl
  rw [start_congr rfl (isAbsolute_join hrelative)]
  rw [segments_join hrelative, List.append_eq_append_iff] at hrest
  rcases hrest with ⟨between, hp, -⟩ | ⟨below, rfl, hbelow⟩
  · exact .inl ⟨way, ⟨between, hp.symm⟩, rfl⟩
  · right
    rw [hbelow, List.mem_append, not_or] at hup
    rw [List.foldl_append, foldl_step_eq_append hup.1, place, Path.location, hbelow,
      List.foldl_append]
    exact ⟨List.prefix_append _ _,
      (List.prefix_append_right_inj _).mpr (prefix_foldl_step hup.2 _)⟩

end FileSystem

namespace Path

open FileSystem (segments isName)

variable {p q : Path}

/-! ### Relative paths that do not go up -/

/-- The location of a path that does not go up has the segments that are names. -/
theorem location_eq_filter (hup : ".." ∉ segments p) :
    p.location = (segments p).filter (· != ".") := by
  rw [location, FileSystem.foldl_step_eq_filter hup, List.nil_append]

/-- Pieces that do not go up stand for the names among them. -/
theorem filterMap_componentOf?_of_not_up {pieces : List (List Char)} (hup : ['.', '.'] ∉ pieces) :
    pieces.filterMap componentOf? =
      (((pieces.filter fun piece => !piece.isEmpty).map String.ofList).filter (· != ".")).map
        .name := by
  induction pieces with
  | nil => rfl
  | cons piece pieces ih =>
    rw [List.mem_cons, not_or] at hup
    have hrest := ih hup.2
    by_cases hempty : piece = []
    · have hnone : componentOf? piece = none := componentOf?_eq_none_iff.mpr (.inl hempty)
      rw [List.filterMap_cons_none hnone, hrest, List.filter_cons_of_neg (by simp [hempty])]
    · rw [List.filter_cons_of_pos (by simpa using hempty), List.map_cons]
      by_cases hdot : piece = ['.']
      · have hnone : componentOf? piece = none := componentOf?_eq_none_iff.mpr (.inr hdot)
        rw [List.filterMap_cons_none hnone, hrest, List.filter_cons_of_neg (by simp [hdot])]
      · have hsome : componentOf? piece = some (.name (String.ofList piece)) :=
          componentOf?_eq_name_iff.mpr ⟨hempty, hdot, Ne.symm hup.1, rfl⟩
        have hname : (String.ofList piece != ".") = true := by
          rw [bne_iff_ne]
          intro heq
          exact hdot (by simpa using congrArg String.toList heq)
        rw [List.filterMap_cons_some hsome, hrest, List.filter_cons, if_pos hname, List.map_cons]

/-- The first segment of a relative path is a dot exactly if the path starts with one. -/
theorem head?_segments_eq_dot_iff {piece : List Char} {pieces : List (List Char)}
    (hrelative : p.isAbsolute = false)
    (hsplit : Text.splitAt isSlash p.text.toList = piece :: pieces) :
    (segments p).head? = some "." ↔ piece = ['.'] := by
  rw [segments, Text.fields, hsplit]
  by_cases hempty : piece = []
  · -- only the empty text has an empty piece at its start
    have hnil : pieces = [] := by
      subst hempty
      rcases Text.splitAt_eq_nil_cons hsplit with ⟨-, hpieces⟩ | ⟨c, rest, htext, hslash, -⟩
      · exact hpieces
      · rw [isAbsolute, htext, eq_slash_of_isSlash hslash] at hrelative
        cases hrelative
    simp [hempty, hnil]
  · rw [List.filter_cons_of_pos (by simpa using hempty), List.map_cons, List.head?_cons,
      Option.some.injEq]
    constructor
    · intro heq
      simpa using congrArg String.toList heq
    · rintro rfl
      rfl

/-- The components of a relative path that does not go up are the names of its location, and in
front of them a dot if the path starts with one. -/
theorem components_of_not_up (hrelative : p.isAbsolute = false) (hup : ".." ∉ segments p) :
    p.components =
      (if (segments p).head? = some "." then [.current] else []) ++ p.location.map .name := by
  have hpieces : ['.', '.'] ∉ Text.splitAt isSlash p.text.toList := by
    intro hmem
    exact hup (List.mem_map_of_mem (List.mem_filter.mpr ⟨hmem, rfl⟩))
  have hhead : p.text.toList.head? ≠ some '/' := by simpa [isAbsolute] using hrelative
  have hnames := filterMap_componentOf?_of_not_up hpieces
  rw [location_eq_filter hup]
  cases hsplit : Text.splitAt isSlash p.text.toList with
  | nil => exact absurd hsplit (Text.splitAt_ne_nil _)
  | cons piece pieces =>
    have hdot := head?_segments_eq_dot_iff hrelative hsplit
    rw [hsplit] at hnames
    simp only [hdot]
    rw [segments, Text.fields, hsplit, ← hnames, components, componentsOf, hsplit]
    dsimp only
    rw [if_neg hhead]
    split_ifs with hpiece
    · have hnone : componentOf? piece = none := componentOf?_eq_none_iff.mpr (.inr hpiece)
      rw [List.filterMap_cons_none hnone]
    · cases hfirst : componentOf? piece with
      | none => rw [List.filterMap_cons_none hfirst]; rfl
      | some c => rw [List.filterMap_cons_some hfirst]; rfl

/-! ### Paths of names -/

/-- A relative path of nothing but names, which have no backslash in them either. -/
structure OfNames (p : Path) : Prop where
  relative : p.isAbsolute = false
  names : ∀ n ∈ segments p, isName n = true
  no_backslash : '\\' ∉ p.text.toList

instance (p : Path) : Decidable p.OfNames :=
  decidable_of_iff
    (p.isAbsolute = false ∧ (∀ n ∈ segments p, isName n = true) ∧ '\\' ∉ p.text.toList)
    ⟨fun ⟨h, h', h''⟩ => ⟨h, h', h''⟩, fun ⟨h, h', h''⟩ => ⟨h, h', h''⟩⟩

theorem componentOf?_of_name {piece : List Char} (hne : piece ≠ [])
    (hname : isName (String.ofList piece) = true) :
    componentOf? piece = some (.name (String.ofList piece)) := by
  rw [isName, Bool.and_eq_true, bne_iff_ne, bne_iff_ne] at hname
  refine componentOf?_eq_name_iff.mpr ⟨hne, ?_, ?_, rfl⟩
  · rintro rfl
    exact hname.1 rfl
  · rintro rfl
    exact hname.2 rfl

namespace OfNames

theorem not_up (h : p.OfNames) : ".." ∉ segments p :=
  fun hmem => absurd (h.names ".." hmem) (by decide)

/-- A path of names leads to its names. -/
theorem location_eq (h : p.OfNames) : p.location = segments p := by
  rw [location_eq_filter h.not_up, List.filter_eq_self]
  intro n hn
  exact (Bool.and_eq_true_iff.mp (h.names n hn)).1

/-- The components of a path of names are its names. -/
theorem components_eq (h : p.OfNames) : p.components = (segments p).map .name := by
  have hdot : (segments p).head? ≠ some "." :=
    fun hhead => absurd (h.names "." (List.mem_of_head? hhead)) (by decide)
  rw [components_of_not_up h.relative h.not_up, if_neg hdot, List.nil_append, h.location_eq]

/-- Two paths of names spell the same path exactly if they lead to the same location. -/
theorem same_iff (hp : p.OfNames) (hq : q.OfNames) :
    p.same q = true ↔ p.location = q.location := by
  rw [same, beq_iff_eq, hp.components_eq, hq.components_eq, hp.location_eq, hq.location_eq]
  exact List.map_inj_right fun _ _ => Component.name.inj

theorem join (hp : p.OfNames) (hq : q.OfNames) : (p.join q).OfNames where
  relative := by rw [isAbsolute_join hq.relative, hp.relative]
  names := by
    intro n hn
    rw [segments_join hq.relative, List.mem_append] at hn
    exact hn.elim (hp.names n) (hq.names n)
  no_backslash := by
    have hfront := hp.no_backslash
    have hback := hq.no_backslash
    rw [Path.join, if_neg (by simp [hq.relative])]
    split_ifs <;> simp [hfront, hback]

end OfNames

/-- One name is a path. -/
theorem ofNames_of_forall {s : String} (hname : isName s = true)
    (h : ∀ c ∈ s.toList, c ≠ '/' ∧ c ≠ '\\') : OfNames ⟨s⟩ where
  relative := by
    rw [isAbsolute, beq_eq_false_iff_ne]
    intro hhead
    exact (h '/' (List.mem_of_head? hhead)).1 rfl
  names := by
    intro n hn
    obtain ⟨piece, hpiece, rfl⟩ := List.mem_map.mp hn
    have hno : ∀ c ∈ s.toList, isSlash c = false := by
      intro c hc
      simpa [isSlash] using (h c hc).1
    rw [Text.fields, Text.splitAt_of_forall_not hno, List.mem_filter, List.mem_singleton] at hpiece
    rwa [hpiece.1, String.ofList_toList]
  no_backslash hmem := (h '\\' hmem).2 rfl

end Path

open FileSystem (segments)

/-! ### What leads inside -/

theorem Component.isInner_iff {c : Component} :
    c.isInner = true ↔ c = .current ∨ ∃ n, c = .name n := by
  cases c <;> simp [isInner]

theorem Path.isInner_iff {p : Path} :
    p.isInner = true ↔ p.text ≠ "" ∧ ∀ c ∈ p.components, c = .current ∨ ∃ n, c = .name n := by
  simp [isInner, Component.isInner_iff]

/-! ### Locations -/

/-- The name in a component, if it is one. -/
def Component.name? : Component → Option String
  | .name n => some n
  | _ => none

namespace Path

variable {p q : Path}

/-- The components of a path inside a directory are the names of its location, and in front of them
there may be a dot. -/
theorem components_of_isInner (h : p.isInner = true) :
    p.components = p.location.map .name ∨ p.components = .current :: p.location.map .name := by
  obtain ⟨hrelative, hup⟩ := not_mem_segments_of_isInner h
  rw [components_of_not_up hrelative hup]
  split_ifs
  · exact .inr rfl
  · exact .inl rfl

/-- A path leads inside a directory exactly if it is relative and does not go up. -/
theorem isInner_iff_segments :
    p.isInner = true ↔ p.text ≠ "" ∧ p.isAbsolute = false ∧ ".." ∉ segments p := by
  constructor
  · exact fun h => ⟨(isInner_iff.mp h).1, not_mem_segments_of_isInner h⟩
  · rintro ⟨hne, hrelative, hup⟩
    refine isInner_iff.mpr ⟨hne, fun c hc => ?_⟩
    rw [components_of_not_up hrelative hup, List.mem_append] at hc
    rcases hc with hc | hc
    · split_ifs at hc
      · exact .inl (List.mem_singleton.mp hc)
      · cases hc
    · obtain ⟨n, -, rfl⟩ := List.mem_map.mp hc
      exact .inr ⟨n, rfl⟩

theorem filterMap_name?_map (names : List String) :
    (names.map Component.name).filterMap Component.name? = names := by
  rw [List.filterMap_map]
  exact List.filterMap_some

/-- A path inside a directory leads to the names among its components. -/
theorem location_eq_names (h : p.isInner = true) :
    p.location = p.components.filterMap Component.name? := by
  rcases components_of_isInner h with hcomponents | hcomponents
  · rw [hcomponents, filterMap_name?_map]
  · rw [hcomponents, List.filterMap_cons_none rfl, filterMap_name?_map]

/-- One of two paths has a dot at the start, and for the rest they have the same components. -/
def DotApart (p q : Path) : Prop :=
  p.components = .current :: q.components ∨ q.components = .current :: p.components

instance (p q : Path) : Decidable (p.DotApart q) :=
  inferInstanceAs (Decidable (_ ∨ _))

theorem DotApart.symm (h : p.DotApart q) : q.DotApart p :=
  Or.symm h

/-- Two paths inside a directory lead to the same location exactly if they have the same components
or differ in a dot at the start. -/
theorem location_eq_iff (hp : p.isInner = true) (hq : q.isInner = true) :
    p.location = q.location ↔ p.components = q.components ∨ p.DotApart q := by
  constructor
  · intro heq
    rcases components_of_isInner hp with hp | hp <;> rcases components_of_isInner hq with hq | hq
    · exact .inl (by rw [hp, hq, heq])
    · exact .inr (.inr (by rw [hp, hq, heq]))
    · exact .inr (.inl (by rw [hp, hq, heq]))
    · exact .inl (by rw [hp, hq, heq])
  · rw [location_eq_names hp, location_eq_names hq]
    rintro (hsame | hdot | hdot)
    · rw [hsame]
    · rw [hdot]
      rfl
    · rw [hdot]
      rfl

end Path

end Scaffold

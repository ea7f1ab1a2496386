import Mathlib.Data.List.TakeWhile
import Mathlib.Tactic.Common
import Scaffold.Disk.FileSystem
import Scaffold.Packaging.Basic
import Scaffold.Project.Files
import Scaffold.Proofs.Text.Basic

/-!
# The segments of paths

A path is followed segment by segment, but it is built and taken apart as a text. Here both views
are brought together: what joining two paths, leaving out the last component and putting another
name in its place do to the segments.

A path loses its last component together with the dots around it. So the segments of its parent are
a prefix of its own, and if the last component is a name, only dots stand beside that name in the
rest.

## Main definitions

* `Beside`: an output and the place beside it, as two names in one parent.

## Main results

* `segments_join`: the segments of a joined path.
* `segments_of_parent?`, `isAbsolute_of_parent?`: the parent of a path starts where the path starts,
  and its segments are a prefix of those of the path.
* `segments_of_fileName?`: a path whose last component is a name leads to that name in its parent.
* `beside_unfinishedPath?`: the place beside an output is in the parent of the output.
* `Path.not_mem_segments_of_isInner`: a path that leads inside does not go up.
-/

namespace Scaffold

namespace Path

open Text (fields)

/-! ### The parent of a path -/

theorem fields_reverse_trimEnd (s : List Char) :
    ∃ dots, (∀ d ∈ dots, d = ['.']) ∧
      fields isSlash s.reverse = fields isSlash (trimEnd s).reverse ++ dots := by
  have hslash : isSlash '/' = true := rfl
  fun_induction trimEnd s with
  | case1 => exact ⟨[], by simp, by simp⟩
  | case2 => exact ⟨[], by simp, by simp⟩
  | case3 rest hrest ih =>
    obtain ⟨dots, hdots, h⟩ := ih
    refine ⟨dots, hdots, ?_⟩
    rw [List.reverse_cons, Text.fields_append_separator _ hslash, ← h]
    simp [fields, Text.splitAt]
  | case4 rest ih =>
    obtain ⟨dots, hdots, h⟩ := ih
    refine ⟨dots ++ [['.']], by simpa [or_imp, forall_and] using hdots, ?_⟩
    rw [List.reverse_cons, List.reverse_cons, List.append_assoc, List.singleton_append,
      Text.fields_append_separator _ hslash, ← List.append_assoc, ← h, List.reverse_cons,
      Text.fields_append_separator _ hslash]
    simp [fields, Text.splitAt, isSlash]
  | case5 s _ _ _ => exact ⟨[], by simp, by simp⟩

theorem eq_slash_of_isSlash {c : Char} (h : isSlash c = true) : c = '/' := by
  simpa [isSlash] using h

/-- In front of the last slash of a trimmed path nothing is left if behind it there is nothing but
a dot. -/
theorem trimEnd_eq_of_takeWhile (s : List Char) :
    ((trimEnd s).takeWhile (fun c => !isSlash c) = [] → trimEnd s = [] ∨ trimEnd s = ['/']) ∧
      ((trimEnd s).takeWhile (fun c => !isSlash c) = ['.'] → trimEnd s = ['.']) := by
  fun_induction trimEnd s with
  | case1 => simp
  | case2 => simp [isSlash]
  | case3 rest hrest ih => exact ih
  | case4 rest ih => exact ih
  | case5 s _ _ hslash hdot =>
    match s with
    | [] => simp
    | c :: rest =>
      have hc : isSlash c = false := by
        by_contra h
        obtain rfl := eq_slash_of_isSlash (by simpa using h)
        exact hslash rest rfl
      refine ⟨by simp [hc], fun h => ?_⟩
      obtain ⟨rfl, hend⟩ : c = '.' ∧ rest.takeWhile (fun c => !isSlash c) = [] := by
        simpa [hc] using h
      match rest with
      | [] => rfl
      | d :: rest =>
        have hd : isSlash d = true := by simpa using hend
        obtain rfl := eq_slash_of_isSlash hd
        exact absurd rfl (hdot rest)

theorem fields_reverse_takeWhile (s : List Char) :
    fields isSlash s.reverse =
      fields isSlash (s.dropWhile fun c => !isSlash c).reverse ++
        (if s.takeWhile (fun c => !isSlash c) = [] then []
          else [(s.takeWhile fun c => !isSlash c).reverse]) := by
  have hsplit := List.takeWhile_append_dropWhile (p := fun c => !isSlash c) (l := s)
  have hpiece : ∀ c ∈ (s.takeWhile fun c => !isSlash c).reverse, isSlash c = false := by
    intro c hc
    simpa using List.mem_takeWhile_imp (List.mem_reverse.mp hc)
  have hfields : fields isSlash (s.takeWhile fun c => !isSlash c).reverse =
      if s.takeWhile (fun c => !isSlash c) = [] then []
        else [(s.takeWhile fun c => !isSlash c).reverse] := by
    split_ifs with hnil
    · rw [hnil]; rfl
    · exact Text.fields_of_forall_not hpiece (by simpa using hnil)
  rw [← hfields]
  conv_lhs => rw [← hsplit, List.reverse_append]
  match hrest : s.dropWhile fun c => !isSlash c with
  | [] => simp [fields, Text.splitAt]
  | c :: rest =>
    have hc : isSlash c = true := by
      have := List.head?_dropWhile_not (fun c => !isSlash c) s
      simpa [hrest] using this
    rw [List.reverse_cons, List.append_assoc, List.singleton_append,
      Text.fields_append_separator _ hc, Text.fields_append_separator _ hc]
    simp [fields, Text.splitAt]

/-- What a path is cut into: its parent, its last piece and dots around it. -/
theorem fields_reverse_parentFromEnd (s : List Char) :
    ∃ dots dots', (∀ d ∈ dots ++ dots', d = ['.']) ∧
      fields isSlash s.reverse = fields isSlash (parentFromEnd s).reverse ++ dots ++
        (if (trimEnd s).takeWhile (fun c => !isSlash c) = [] then []
          else [((trimEnd s).takeWhile fun c => !isSlash c).reverse]) ++ dots' := by
  obtain ⟨dots', hdots', hend⟩ := fields_reverse_trimEnd s
  obtain ⟨dots, hdots, hfront⟩ :=
    fields_reverse_trimEnd ((trimEnd s).dropWhile fun c => !isSlash c)
  refine ⟨dots, dots', ?_, ?_⟩
  · intro d hd
    exact (List.mem_append.mp hd).elim (hdots d) (hdots' d)
  · rw [hend, fields_reverse_takeWhile, hfront, parentFromEnd]

theorem fields_prefix_parentFromEnd (s : List Char) :
    fields isSlash (parentFromEnd s).reverse <+: fields isSlash s.reverse := by
  obtain ⟨dots, dots', -, h⟩ := fields_reverse_parentFromEnd s
  rw [h, List.append_assoc, List.append_assoc]
  exact List.prefix_append _ _

theorem fields_of_parentFromEnd (s : List Char) :
    (∀ d ∈ fields isSlash s.reverse, d = ['.']) ∨
      ∃ dots name dots', (∀ d ∈ dots ++ dots', d = ['.']) ∧ name ≠ ['.'] ∧
        fields isSlash s.reverse =
          fields isSlash (parentFromEnd s).reverse ++ dots ++ name :: dots' := by
  obtain ⟨dots, dots', hdots, h⟩ := fields_reverse_parentFromEnd s
  obtain ⟨hnone, hdot⟩ := trimEnd_eq_of_takeWhile s
  by_cases hnil : (trimEnd s).takeWhile (fun c => !isSlash c) = []
  · left
    have hparent : fields isSlash (parentFromEnd s).reverse = [] := by
      rw [parentFromEnd]
      rcases hnone hnil with htrim | htrim <;> simp [htrim, isSlash, trimEnd, fields, Text.splitAt]
    rw [h, hparent, if_pos hnil]
    simpa using hdots
  by_cases hone : (trimEnd s).takeWhile (fun c => !isSlash c) = ['.']
  · left
    have hparent : fields isSlash (parentFromEnd s).reverse = [] := by
      rw [parentFromEnd]
      simp [hdot hone, isSlash, trimEnd, fields, Text.splitAt]
    rw [h, hparent, if_neg hnil, hone]
    intro d hd
    simp only [List.mem_append, List.mem_singleton, List.nil_append, List.reverse_singleton] at hd
    rcases hd with (hd | rfl) | hd
    · exact hdots d (List.mem_append_left _ hd)
    · rfl
    · exact hdots d (List.mem_append_right _ hd)
  · right
    rw [if_neg hnil] at h
    refine ⟨dots, _, dots', hdots, fun hname => hone ?_, by rw [h, List.append_assoc]; rfl⟩
    simpa using congrArg List.reverse hname

theorem trimEnd_suffix (s : List Char) : trimEnd s <:+ s := by
  fun_induction trimEnd s with
  | case1 => exact List.suffix_rfl
  | case2 => exact List.suffix_rfl
  | case3 rest _ ih => exact ih.trans (List.suffix_cons _ _)
  | case4 rest ih => exact ih.trans (List.suffix_cons _ _)
  | case5 s => exact List.suffix_rfl

theorem getLast?_trimEnd {s : List Char} (h : s.getLast? = some '/') :
    (trimEnd s).getLast? = some '/' := by
  fun_induction trimEnd s with
  | case1 => exact h
  | case2 => rfl
  | case3 rest hrest ih =>
    apply ih
    cases rest with
    | nil => exact absurd rfl hrest
    | cons c rest => simpa [List.getLast?_cons_cons] using h
  | case4 rest ih => exact ih (by simpa [List.getLast?_cons_cons] using h)
  | case5 s => exact h

theorem getLast?_of_suffix {front back : List Char} (h : back <:+ front) (hne : back ≠ []) :
    front.getLast? = back.getLast? := by
  obtain ⟨dropped, rfl⟩ := h
  obtain ⟨init, last, rfl⟩ := List.eq_nil_or_concat back |>.resolve_left hne
  simp

theorem getLast?_parentFromEnd_iff (s : List Char) :
    (parentFromEnd s).getLast? = some '/' ↔ s.getLast? = some '/' := by
  have hsuffix : parentFromEnd s <:+ s :=
    (trimEnd_suffix _).trans ((List.dropWhile_suffix _).trans (trimEnd_suffix s))
  constructor
  · intro h
    rwa [getLast?_of_suffix hsuffix (by rintro hnil; simp [hnil] at h)]
  · intro h
    have htrim := getLast?_trimEnd h
    have hne : (trimEnd s).dropWhile (fun c => !isSlash c) ≠ [] := by
      rw [Ne, List.dropWhile_eq_nil_iff]
      exact fun hall => absurd (hall '/' (List.mem_of_getLast? htrim)) (by decide)
    apply getLast?_trimEnd
    rwa [← getLast?_of_suffix (List.dropWhile_suffix _) hne]

theorem parent?_eq_some {p q : Path} (h : p.parent? = some q) :
    q = ⟨String.ofList (parentFromEnd p.text.toList.reverse).reverse⟩ := by
  rw [parent?] at h
  split at h
  · exact absurd h (by simp)
  · exact absurd h (by simp)
  · exact (Option.some.inj h).symm

/-- The parent of a path starts where the path starts. -/
theorem isAbsolute_of_parent? {p q : Path} (h : p.parent? = some q) :
    q.isAbsolute = p.isAbsolute := by
  rw [parent?_eq_some h, isAbsolute, isAbsolute, Bool.eq_iff_iff, beq_iff_eq, beq_iff_eq]
  simpa using getLast?_parentFromEnd_iff p.text.toList.reverse

end Path

/-- The parent of a path is on the way of the path. -/
theorem segments_of_parent? {p q : Path} (h : p.parent? = some q) :
    FileSystem.segments q <+: FileSystem.segments p := by
  have hbelow := Path.fields_prefix_parentFromEnd p.text.toList.reverse
  rw [Path.parent?_eq_some h, FileSystem.segments, FileSystem.segments]
  simpa using hbelow.map String.ofList

/-! ### Names at the end of a path -/

namespace Path

open Text (fields)

theorem componentOf?_eq_name_iff {piece : List Char} {name : String} :
    componentOf? piece = some (.name name) ↔
      piece ≠ [] ∧ piece ≠ ['.'] ∧ piece ≠ ['.', '.'] ∧ name = String.ofList piece := by
  unfold componentOf?
  split_ifs with hdot hparent
  · simp only [false_iff, not_and]
    rintro hnil hone
    exact absurd hdot (not_or.mpr ⟨hnil, hone⟩)
  · simp [hparent]
  · rw [not_or] at hdot
    simp [hdot, hparent, eq_comm]

theorem componentOf?_eq_none_iff {piece : List Char} :
    componentOf? piece = none ↔ piece = [] ∨ piece = ['.'] := by
  unfold componentOf?
  split_ifs with hdot hparent <;> simp_all

theorem exists_splitAt_of_fileName? {p : Path} {name : String} (h : p.fileName? = some name) :
    ∃ front piece back, Text.splitAt isSlash p.text.toList = front ++ piece :: back ∧
      componentOf? piece = some (.name name) ∧ ∀ other ∈ back, componentOf? other = none := by
  have hlast : p.components.getLast? = some (.name name) := by
    rw [fileName?] at h
    split at h
    · next hlast => rw [hlast, Option.some.inj h]
    · exact absurd h (by simp)
  obtain ⟨piece, pieces, hsplit⟩ := List.exists_cons_of_ne_nil (Text.splitAt_ne_nil p.text.toList)
  rw [components, componentsOf, hsplit] at hlast
  simp only [List.getLast?_append] at hlast
  cases hback : (pieces.filterMap componentOf?).getLast? with
  | some c =>
    rw [hback, Option.some_or, Option.some.injEq] at hlast
    rw [List.getLast?_filterMap, List.findSome?_eq_some_iff] at hback
    obtain ⟨front, last, back, hpieces, hlast', hnone⟩ := hback
    refine ⟨piece :: back.reverse, last, front.reverse, ?_, by rw [hlast', hlast], ?_⟩
    · rw [hsplit, ← List.reverse_reverse pieces, hpieces]
      simp
    · simpa using hnone
  | none =>
    have hnone : ∀ other ∈ pieces, componentOf? other = none := by
      simpa [List.getLast?_eq_none_iff, List.filterMap_eq_nil_iff] using hback
    rw [hback, Option.none_or] at hlast
    refine ⟨[], piece, pieces, hsplit, ?_, hnone⟩
    split at hlast
    · exact absurd hlast (by simp)
    · split at hlast
      · exact absurd hlast (by simp)
      · cases hpiece : componentOf? piece <;> simp_all

theorem fields_of_fileName? {p : Path} {name : String} (h : p.fileName? = some name) :
    ∃ front dots, (∀ d ∈ dots, d = ['.']) ∧
      fields isSlash p.text.toList = front ++ name.toList :: dots ∧
      name.toList ≠ ['.'] ∧ name.toList ≠ ['.', '.'] ∧ '/' ∉ name.toList := by
  obtain ⟨front, piece, back, hsplit, hpiece, hback⟩ := exists_splitAt_of_fileName? h
  obtain ⟨hnil, hdot, hparent, rfl⟩ := componentOf?_eq_name_iff.mp hpiece
  have hmem : piece ∈ Text.splitAt isSlash p.text.toList := by simp [hsplit]
  refine ⟨front.filter fun x => !x.isEmpty, back.filter fun x => !x.isEmpty, ?_, ?_, ?_⟩
  · intro d hd
    obtain ⟨hd, hne⟩ := List.mem_filter.mp hd
    exact (componentOf?_eq_none_iff.mp (hback d hd)).resolve_left (by simpa using hne)
  · rw [fields, hsplit, List.filter_append, List.filter_cons_of_pos (by simpa using hnil),
      String.toList_ofList]
  · rw [String.toList_ofList]
    refine ⟨hdot, hparent, fun hslash => ?_⟩
    exact absurd (Text.not_separator_of_mem_splitAt hmem '/' hslash) (by decide)

end Path

/-- The last element of a list that is not `d` and what stands in front of it. -/
theorem append_cons_inj_of_forall {α : Type} {d a b : α} {front front' dots dots' : List α}
    (h : front ++ a :: dots = front' ++ b :: dots') (ha : a ≠ d) (hb : b ≠ d)
    (hdots : ∀ x ∈ dots, x = d) (hdots' : ∀ x ∈ dots', x = d) : front = front' ∧ a = b := by
  rcases List.append_eq_append_iff.mp h with ⟨between, rfl, htail⟩ | ⟨between, rfl, htail⟩
  · cases between with
    | nil => exact ⟨by simp, (List.cons.inj htail).1⟩
    | cons c between =>
      have hmem : b ∈ dots := by simp [(List.cons.inj htail).2]
      exact absurd (hdots b hmem) hb
  · cases between with
    | nil => exact ⟨by simp, (List.cons.inj htail).1.symm⟩
    | cons c between =>
      have hmem : a ∈ dots' := by simp [(List.cons.inj htail).2]
      exact absurd (hdots' a hmem) ha

/-- A path is its parent, its last piece and dots around that, unless there are only dots. -/
theorem segments_cut_of_parent? {p parent : Path} (h : p.parent? = some parent) :
    (∀ d ∈ FileSystem.segments p, d = ".") ∨
      ∃ dots name dots', (∀ d ∈ dots ++ dots', d = ".") ∧ name ≠ "." ∧
        FileSystem.segments p = FileSystem.segments parent ++ dots ++ name :: dots' := by
  have hdot : ∀ pieces : List (List Char), (∀ d ∈ pieces, d = ['.']) →
      ∀ d ∈ pieces.map String.ofList, d = "." := by
    intro pieces hpieces d hd
    obtain ⟨piece, hpiece, rfl⟩ := List.mem_map.mp hd
    rw [hpieces piece hpiece]
  have hcut := Path.fields_of_parentFromEnd p.text.toList.reverse
  rw [List.reverse_reverse] at hcut
  rcases hcut with hall | ⟨dots, name, dots', hdots, hname, hcut⟩
  · exact .inl (hdot _ hall)
  · refine .inr ⟨dots.map String.ofList, String.ofList name, dots'.map String.ofList, ?_, ?_, ?_⟩
    · rw [← List.map_append]
      exact hdot _ hdots
    · intro hname'
      exact hname (by simpa using congrArg String.toList hname')
    · rw [FileSystem.segments, hcut, Path.parent?_eq_some h, FileSystem.segments]
      simp

/-- The parent of a path that ends in a name has no segments behind those in front of the name. -/
theorem segments_of_parent?_of_name {p parent : Path} {front : List String} {name : String}
    (h : p.parent? = some parent) (hp : FileSystem.segments p = front ++ [name])
    (hname : name ≠ ".") : FileSystem.segments parent <+: front := by
  rcases segments_cut_of_parent? h with hall | ⟨dots, last, dots', hdots, hlast, hcut⟩
  · exact absurd (hall name (by simp [hp])) hname
  · obtain ⟨rfl, -⟩ := append_cons_inj_of_forall (hp.symm.trans hcut) hname hlast (by simp)
      fun x hx => hdots x (List.mem_append_right _ hx)
    exact List.prefix_append _ _

/-- A path whose last component is a name leads to that name in its parent. -/
theorem segments_of_fileName? {p : Path} {name : String} (h : p.fileName? = some name) :
    ∃ parent dots dots', p.parent? = some parent ∧ (∀ d ∈ dots ++ dots', d = ".") ∧
      FileSystem.segments p = FileSystem.segments parent ++ dots ++ name :: dots' ∧
      FileSystem.isName name = true ∧ '/' ∉ name.toList := by
  obtain ⟨front, dots', hdots', hfields, hdot, hup, hslash⟩ := Path.fields_of_fileName? h
  have hname : name ≠ "." := by
    rintro rfl
    exact hdot rfl
  have hname' : name ≠ ".." := by
    rintro rfl
    exact hup rfl
  obtain ⟨parent, hparent⟩ : ∃ parent, p.parent? = some parent := by
    rw [Path.fileName?] at h
    rw [Path.parent?]
    split at h
    · next hlast => exact ⟨_, by rw [hlast]⟩
    · exact absurd h (by simp)
  have hsegments : FileSystem.segments p =
      front.map String.ofList ++ name :: dots'.map String.ofList := by
    rw [FileSystem.segments, hfields]
    simp
  rcases segments_cut_of_parent? hparent with hall | ⟨dots, last, dots'', hdots, hlast, hcut⟩
  · exact absurd (hall name (by simp [hsegments])) hname
  · have hend : ∀ d ∈ dots'.map String.ofList, d = "." := by
      intro d hd
      obtain ⟨piece, hpiece, rfl⟩ := List.mem_map.mp hd
      rw [hdots' piece hpiece]
    obtain ⟨-, rfl⟩ := append_cons_inj_of_forall (hsegments.symm.trans hcut) hname hlast hend
      fun x hx => hdots x (List.mem_append_right _ hx)
    exact ⟨parent, dots, dots'', hparent, hdots, hcut, by simp [FileSystem.isName, *], hslash⟩

theorem text_ne_of_segments_ne_nil {p : Path} (h : FileSystem.segments p ≠ []) : p.text ≠ "" := by
  intro hempty
  simp [FileSystem.segments, hempty, Text.fields, Text.splitAt] at h

/-! ### Joined paths -/

theorem segments_join {p q : Path} (hq : q.isAbsolute = false) :
    FileSystem.segments (p.join q) = FileSystem.segments p ++ FileSystem.segments q := by
  have hslash : Path.isSlash '/' = true := rfl
  rw [Path.join, if_neg (by simp [hq])]
  split_ifs with hend
  · rcases hend with hempty | hend
    · simp [FileSystem.segments, hempty, Text.fields, Text.splitAt]
    · obtain ⟨front, hfront⟩ : ∃ front, p.text.toList = front ++ ['/'] :=
        List.getLast?_eq_some_iff.mp hend
      simp only [FileSystem.segments, String.toList_append, hfront, List.append_assoc,
        List.singleton_append, Text.fields_append_separator _ hslash]
      simp [Text.fields, Text.splitAt]
  · have htext : (p.text ++ "/" ++ q.text).toList = p.text.toList ++ '/' :: q.text.toList := by simp
    rw [FileSystem.segments, htext, Text.fields_append_separator _ hslash, List.map_append]
    rfl

theorem isAbsolute_join {p q : Path} (hq : q.isAbsolute = false) :
    (p.join q).isAbsolute = p.isAbsolute := by
  rw [Path.join, if_neg (by simp [hq])]
  rw [Path.isAbsolute] at hq
  by_cases hempty : p.text = ""
  · simp [Path.isAbsolute, hempty, hq]
  · have hne : p.text.toList ≠ [] := by simpa using hempty
    obtain ⟨c, cs, hcs⟩ := List.exists_cons_of_ne_nil hne
    split_ifs <;> simp [Path.isAbsolute, hcs]

/-! ### The place beside an output -/

/-- The name that an output has while it is built. -/
def unfinishedName (name : String) : String :=
  "." ++ name ++ ".partial"

theorem toList_unfinishedName (name : String) :
    (unfinishedName name).toList = '.' :: (name.toList ++ ".partial".toList) := by
  simp [unfinishedName]

theorem unfinishedName_ne_self (name : String) : unfinishedName name ≠ name := by
  intro h
  have hlength := congrArg (fun s => s.toList.length) h
  simp [toList_unfinishedName] at hlength
  omega

theorem isName_unfinishedName (name : String) : FileSystem.isName (unfinishedName name) = true := by
  have hlong : 2 < (unfinishedName name).toList.length := by simp [toList_unfinishedName]
  have hne : ∀ other : String, other.toList.length ≤ 2 → unfinishedName name ≠ other := by
    rintro other hother rfl
    omega
  simp [FileSystem.isName, hne "." (by decide), hne ".." (by decide)]

/-- An output and the place beside it are two names in one parent. -/
structure Beside (output unfinished parent : Path) (name : String) : Prop where
  parent?_eq : output.parent? = some parent
  isName : FileSystem.isName name = true
  segments_output : ∃ dots dots', (∀ d ∈ dots ++ dots', d = ".") ∧
    FileSystem.segments output = FileSystem.segments parent ++ dots ++ name :: dots'
  segments_unfinished : FileSystem.segments unfinished =
    FileSystem.segments parent ++ [unfinishedName name]
  isAbsolute_unfinished : unfinished.isAbsolute = parent.isAbsolute

/-- The place beside an output is in the parent of the output. -/
theorem beside_unfinishedPath? {output unfinished : Path}
    (h : unfinishedPath? output = some unfinished) :
    ∃ parent name, Beside output unfinished parent name := by
  obtain ⟨name, hname, rfl⟩ := Option.map_eq_some_iff.mp h
  obtain ⟨parent, dots, dots', hparent, hdots, houtput, hisName, hslash⟩ :=
    segments_of_fileName? hname
  have hrelative : (⟨unfinishedName name⟩ : Path).isAbsolute = false := by
    simp [Path.isAbsolute, toList_unfinishedName]
  have hsegments : FileSystem.segments ⟨unfinishedName name⟩ = [unfinishedName name] := by
    have hno : ∀ c ∈ (unfinishedName name).toList, Path.isSlash c = false := by
      intro c hc
      rw [toList_unfinishedName] at hc
      simp only [List.mem_cons, List.mem_append] at hc
      rcases hc with rfl | hc | hc
      · rfl
      · rw [Path.isSlash, beq_eq_false_iff_ne]
        rintro rfl
        exact hslash hc
      · have hextension : ".partial".toList.all (!Path.isSlash ·) = true := by decide
        simpa using List.all_eq_true.mp hextension c hc
    rw [FileSystem.segments, Text.fields_of_forall_not hno (by simp [toList_unfinishedName])]
    simp
  have hplace : output.withFileName ("." ++ name ++ ".partial") =
      parent.join ⟨unfinishedName name⟩ := by
    rw [Path.withFileName, hname, hparent, unfinishedName]
  refine ⟨parent, name, hparent, hisName, ⟨dots, dots', hdots, houtput⟩, ?_, ?_⟩
  · rw [hplace, segments_join hrelative, hsegments]
  · rw [hplace, isAbsolute_join hrelative]

/-! ### Paths that lead inside -/

/-- A path that leads inside starts where it is followed from and does not go up. -/
theorem Path.not_mem_segments_of_isInner {p : Path} (h : p.isInner = true) :
    p.isAbsolute = false ∧ ".." ∉ FileSystem.segments p := by
  obtain ⟨piece, pieces, hsplit⟩ := List.exists_cons_of_ne_nil (Text.splitAt_ne_nil p.text.toList)
  have hinner : ∀ c ∈ p.components, c.isInner = true := by
    rw [Path.isInner, Bool.and_eq_true, List.all_eq_true] at h
    exact h.2
  rw [Path.components, Path.componentsOf, hsplit] at hinner
  have hhead : p.text.toList.head? ≠ some '/' := by
    intro hhead
    have := hinner .root (by simp [hhead])
    simp [Component.isInner] at this
  refine ⟨by simpa [Path.isAbsolute] using hhead, fun hup => ?_⟩
  obtain ⟨up, hmem, hup⟩ := List.mem_map.mp hup
  obtain rfl : up = ['.', '.'] := by simpa using congrArg String.toList hup
  have hparent : Path.componentOf? ['.', '.'] = some .parent := rfl
  have hmem : ['.', '.'] ∈ piece :: pieces := hsplit ▸ (List.mem_filter.mp hmem).1
  -- a piece that goes up is a component that goes up, wherever it stands
  have hcomponent := hinner .parent
  rcases List.mem_cons.mp hmem with rfl | hpieces
  · simp [hhead, hparent, Component.isInner] at hcomponent
  · have : Component.parent ∈ pieces.filterMap Path.componentOf? :=
      List.mem_filterMap.mpr ⟨_, hpieces, hparent⟩
    simp [this, Component.isInner] at hcomponent

end Scaffold

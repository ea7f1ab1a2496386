import Mathlib.Tactic.Common
import Mathlib.Tactic.SplitIfs
import Scaffold.Proofs.Path.Segments

/-!
# Places in a file system

Where a path leads to depends on what is there only in that everything in front of its last segment
has to be a directory. `FileSystem.place` is the location it leads to if that is so. It is the same
before and after an operation, because no operation changes the working directory, and so it is what
a statement about a path and two file systems is about.

## Main definitions

* `FileSystem.step`, `FileSystem.place`: the location that a path leads to.
* `FileSystem.OnWay`: the locations that a path leads through.

## Main results

* `at?_put`, `at?_erase`, `at?_clear`: what is at a location after a change.
* `locate_eq_place`: a path leads to its place if it leads anywhere.
* `locate_of_atMostMade`: a path that leads somewhere still does after directories were made on its
  way.
-/

namespace Scaffold.FileSystem

variable {fs fs' : FileSystem} {l l' : Location} {e : Entry}

/-! ### What is at a location -/

theorem at?_of_ne_nil (fs : FileSystem) (h : l ≠ []) : fs.at? l = fs.entries.lookup l := by
  rw [at?, if_neg h]

@[simp] theorem at?_nil (fs : FileSystem) : fs.at? [] = some .directory := by
  simp [at?]

theorem lookup_map_put (entries : List (Location × Entry)) (l l' : Location) (e : Entry) :
    (entries.map fun (k, old) => (k, if k = l then e else old)).lookup l' =
      if l' = l then (entries.lookup l').map fun _ => e else entries.lookup l' := by
  induction entries with
  | nil => simp
  | cons entry rest ih =>
    obtain ⟨k, old⟩ := entry
    rw [List.map_cons, List.lookup_cons, List.lookup_cons, ih]
    cases hk : l' == k
    · rfl
    · obtain rfl : l' = k := by simpa using hk
      split_ifs with h <;> rfl

theorem lookup_filter (entries : List (Location × Entry)) (keep : Location → Bool)
    (l : Location) :
    (entries.filter fun (k, _) => keep k).lookup l =
      if keep l then entries.lookup l else none := by
  induction entries with
  | nil => simp
  | cons entry rest ih =>
    obtain ⟨k, old⟩ := entry
    rw [List.lookup_cons]
    cases hk : l == k
    · rw [← ih]
      cases hkeep : keep k <;> simp [hkeep, List.lookup_cons, hk]
    · obtain rfl : l = k := by simpa using hk
      cases hkeep : keep l <;> simp [hkeep, ih]

/-- What is at a location after an entry was put somewhere. -/
theorem at?_put (fs : FileSystem) {l : Location} (hl : l ≠ []) (e : Entry) (l' : Location) :
    (fs.put l e).at? l' = if l' = l then some e else fs.at? l' := by
  by_cases hnil : l' = []
  · subst hnil
    rw [if_neg (Ne.symm hl), at?_nil, at?_nil]
  rw [at?_of_ne_nil _ hnil, at?_of_ne_nil _ hnil, put]
  split_ifs with hsome heq heq
  · subst heq
    obtain ⟨old, hold⟩ := Option.isSome_iff_exists.mp hsome
    simp [lookup_map_put, hold]
  · simp [lookup_map_put, heq]
  · subst heq
    simp [List.lookup_append, Option.not_isSome_iff_eq_none.mp hsome]
  · simp [List.lookup_append, List.lookup_cons, beq_false_of_ne heq]

/-- What is at a location after a location was removed. -/
theorem at?_erase (fs : FileSystem) (l : Location) {l' : Location} (hl' : l' ≠ []) :
    (fs.erase l).at? l' = if l <+: l' then none else fs.at? l' := by
  rw [at?_of_ne_nil _ hl', at?_of_ne_nil _ hl', erase, lookup_filter _ fun k => !l.isPrefixOf k]
  simp only [Bool.not_eq_true', ← List.isPrefixOf_iff_prefix]
  cases l.isPrefixOf l' <;> simp

/-- What is not at or below a location stays when that location is removed. -/
theorem at?_erase_of_not_prefix (fs : FileSystem) {l l' : Location} (h : ¬ l <+: l') :
    (fs.erase l).at? l' = fs.at? l' := by
  by_cases hnil : l' = []
  · subst hnil
    rw [at?_nil, at?_nil]
  · rw [at?_erase _ _ hnil, if_neg h]

theorem at?_erase_self (fs : FileSystem) {l : Location} (hl : l ≠ []) :
    (fs.erase l).at? l = none := by
  rw [at?_erase _ _ hl, if_pos List.prefix_rfl]

/-- What is at a location after what is below a location was removed. -/
theorem at?_clear (fs : FileSystem) {l l' : Location} (h : ¬ l <+: l') :
    (fs.clear l).at? l' = fs.at? l' := by
  by_cases hnil : l' = []
  · subst hnil
    rw [at?_nil, at?_nil]
  · rw [at?_of_ne_nil _ hnil, at?_of_ne_nil _ hnil, clear,
      lookup_filter _ fun k => k == l || !l.isPrefixOf k]
    simp [← List.isPrefixOf_iff_prefix] at h
    simp [h]

/-! ### Where a path leads -/

/-- The location one segment further than a location. -/
def step (l : Location) (segment : String) : Location :=
  if segment = "." then l
  else if segment = ".." then l.dropLast
  else l ++ [segment]

@[simp] theorem step_dot (l : Location) : step l "." = l := rfl

@[simp] theorem step_up (l : Location) : step l ".." = l.dropLast := rfl

theorem step_name (l : Location) {segment : String} (h : isName segment = true) :
    step l segment = l ++ [segment] := by
  simp only [isName, Bool.and_eq_true, bne_iff_ne] at h
  rw [step, if_neg h.1, if_neg h.2]

/-- The location that a path leads to if every location in front of its last segment is a
directory. -/
def place (fs : FileSystem) (p : Path) : Location :=
  (segments p).foldl step (fs.start p)

/-- Without going up a way is the names on it. -/
theorem foldl_step_eq_filter {way : List String} (hup : ".." ∉ way) (l : Location) :
    way.foldl step l = l ++ way.filter (· != ".") := by
  induction way generalizing l with
  | nil => simp
  | cons segment way ih =>
    rw [List.mem_cons, not_or] at hup
    rw [List.foldl_cons, ih hup.2]
    by_cases hdot : segment = "."
    · simp [hdot]
    · simp [step, hdot, Ne.symm hup.1]

/-- Without going up one stays where one started or below. -/
theorem prefix_foldl_step {way : List String} (hup : ".." ∉ way) (l : Location) :
    l <+: way.foldl step l := by
  rw [foldl_step_eq_filter hup]
  exact List.prefix_append _ _

theorem foldl_step_dots {dots : List String} (h : ∀ d ∈ dots, d = ".") (l : Location) :
    dots.foldl step l = l := by
  induction dots with
  | nil => rfl
  | cons d dots ih =>
    rw [List.foldl_cons, h d List.mem_cons_self, step_dot]
    exact ih fun d hd => h d (List.mem_cons_of_mem _ hd)

/-- The location is one that a path leads through or to. -/
def OnWay (fs : FileSystem) (p : Path) (l : Location) : Prop :=
  ∃ way, way <+: segments p ∧ l = way.foldl step (fs.start p)

theorem onWay_place (fs : FileSystem) (p : Path) : fs.OnWay p (fs.place p) :=
  ⟨segments p, List.prefix_rfl, rfl⟩

theorem start_congr {p q : Path} (hdir : fs.workingDirectory = fs'.workingDirectory)
    (hp : p.isAbsolute = q.isAbsolute) : fs.start p = fs'.start q := by
  rw [start, start, hp, hdir]

theorem place_congr (hdir : fs.workingDirectory = fs'.workingDirectory) (p : Path) :
    fs.place p = fs'.place p := by
  rw [place, place, start_congr hdir rfl]

theorem enter_eq_step {segment : String} (h : fs.enter l segment = .ok l') :
    l' = step l segment := by
  rw [enter] at h
  rw [step]
  split at h
  · split_ifs at h with hup
    rw [hup.2]
    exact (Except.ok.inj h).symm
  · exact absurd h (by simp)
  · split_ifs at h ⊢ <;> exact (Except.ok.inj h).symm

/-- What a name is entered from is a directory, and the name is not too long. -/
theorem enter_name_ok {segment : String} (hsegment : isName segment = true)
    (h : fs.enter l segment = .ok l') :
    fs.at? l = some .directory ∧ segment.utf8ByteSize ≤ maxNameBytes := by
  simp only [isName, Bool.and_eq_true, bne_iff_ne] at hsegment
  rw [enter] at h
  split at h
  · split_ifs at h with hup
    exact absurd hup.2 hsegment.2
  · cases h
  · next hat =>
    rw [if_neg hsegment.1, if_neg hsegment.2] at h
    split_ifs at h with hlong
    exact ⟨hat, Nat.le_of_not_lt hlong⟩

theorem enter_name {segment : String} (hsegment : isName segment = true)
    (hat : fs.at? l = some .directory) (hshort : segment.utf8ByteSize ≤ maxNameBytes) :
    fs.enter l segment = .ok (l ++ [segment]) := by
  simp only [isName, Bool.and_eq_true, bne_iff_ne] at hsegment
  rw [enter, hat]
  dsimp only
  rw [if_neg hsegment.1, if_neg hsegment.2, if_neg (Nat.not_lt_of_le hshort)]

theorem foldlM_enter_dots {dots : List String} (h : ∀ d ∈ dots, d = ".")
    (hat : fs.at? l = some .directory) : dots.foldlM fs.enter l = .ok l := by
  induction dots with
  | nil => rfl
  | cons d dots ih =>
    have henter : fs.enter l "." = .ok l := by
      rw [enter, hat]
      rfl
    rw [List.foldlM_cons, h d List.mem_cons_self, henter]
    exact ih fun d hd => h d (List.mem_cons_of_mem _ hd)

theorem foldlM_enter_eq {way : List String} (h : way.foldlM fs.enter l = .ok l') :
    l' = way.foldl step l := by
  induction way generalizing l with
  | nil => exact (Except.ok.inj h).symm
  | cons segment way ih =>
    rw [List.foldlM_cons] at h
    cases hnext : fs.enter l segment with
    | error e =>
      rw [hnext] at h
      cases h
    | ok next =>
      rw [hnext] at h
      rw [List.foldl_cons, ← enter_eq_step hnext]
      exact ih h

/-- The texts that the disk takes as paths lead where their segments lead. -/
theorem locate_eq_ok_iff {p : Path} :
    fs.locate p = .ok l ↔
      ('\x00' ∉ p.text.toList ∧ p.text ≠ "" ∧ p.text.utf8ByteSize ≤ maxPathBytes) ∧
        (segments p).foldlM fs.enter (fs.start p) = .ok l := by
  rw [locate]
  split_ifs with hnul hempty hlong
  · have hmem : '\x00' ∈ p.text.toList := by simpa using hnul
    simp [hmem]
  · simp [hempty]
  · simp [Nat.not_le_of_lt hlong]
  · have hfree : '\x00' ∉ p.text.toList := by simpa using hnul
    simp [hfree, hempty, Nat.le_of_not_lt hlong]

theorem locate_eq_ok {p : Path} (h : fs.locate p = .ok l) :
    (segments p).foldlM fs.enter (fs.start p) = .ok l :=
  (locate_eq_ok_iff.mp h).2

/-- A path leads to its place if it leads anywhere. -/
theorem locate_eq_place {p : Path} (h : fs.locate p = .ok l) : l = fs.place p :=
  foldlM_enter_eq (locate_eq_ok h)

theorem look_eq_ok {p : Path} (h : fs.look p = .ok (l, e)) :
    fs.locate p = .ok l ∧ fs.at? l = some e := by
  rw [look] at h
  split at h
  · exact absurd h (by simp)
  · next hlocate =>
    split at h
    · exact absurd h (by simp)
    · next hat =>
      obtain ⟨rfl, rfl⟩ := Prod.mk.inj (Except.ok.inj h)
      exact ⟨hlocate, hat⟩
    · next hat =>
      split_ifs at h
      obtain ⟨rfl, rfl⟩ := Prod.mk.inj (Except.ok.inj h)
      exact ⟨hlocate, hat⟩

theorem look_directory {p : Path} (h : fs.locate p = .ok l) (hat : fs.at? l = some .directory) :
    fs.look p = .ok (l, .directory) := by
  rw [look, h]
  simp only [hat]

/-- A path that asks for no directory finds whatever is where it leads. -/
theorem look_of_locate {p : Path} (h : fs.locate p = .ok l) (hat : fs.at? l = some e)
    (hslash : asksForDirectory p = false) : fs.look p = .ok (l, e) := by
  rw [look, h]
  dsimp only
  rw [hat]
  cases e with
  | directory => rfl
  | file content =>
    dsimp only
    rw [hslash]
    rfl

theorem stat?_eq_some_iff {p : Path} : fs.stat? p = some e ↔ ∃ l, fs.look p = .ok (l, e) := by
  rw [stat?]
  split
  · next h => simp [h]
  · next h => simp [h]

/-! ### Paths that stay passable -/

/-- Nothing changed at a location unless a directory was made where nothing was. -/
def AtMostMade (fs fs' : FileSystem) (l : Location) : Prop :=
  fs'.at? l = fs.at? l ∨ fs.at? l = none ∧ fs'.at? l = some .directory

theorem AtMostMade.trans {fs'' : FileSystem} (h : AtMostMade fs fs' l)
    (h' : AtMostMade fs' fs'' l) : AtMostMade fs fs'' l := by
  rcases h with h | ⟨hnone, hmade⟩
  · rw [AtMostMade, ← h]
    exact h'
  · rcases h' with h' | ⟨hnone', -⟩
    · exact .inr ⟨hnone, h'.trans hmade⟩
    · exact absurd (hmade.symm.trans hnone') (by simp)

theorem enter_of_atMostMade (hdir : fs'.workingDirectory = fs.workingDirectory)
    (hmade : AtMostMade fs fs' l) {segment : String} (h : fs.enter l segment = .ok l') :
    fs'.enter l segment = .ok l' := by
  rcases hmade with hat | ⟨hnone, hdirectory⟩
  · rw [enter, hat, hdir]
    exact h
  · -- only the working directory can be left without being there
    rw [enter, hnone] at h
    rw [enter, hdirectory]
    dsimp only at h ⊢
    split_ifs at h with hup
    rw [if_neg (by simp [hup.2]), if_pos hup.2]
    exact h

theorem foldlM_enter_of_atMostMade (hdir : fs'.workingDirectory = fs.workingDirectory)
    {way : List String} (h : way.foldlM fs.enter l = .ok l')
    (hmade : ∀ front segment back, way = front ++ segment :: back →
      AtMostMade fs fs' (front.foldl step l)) :
    way.foldlM fs'.enter l = .ok l' := by
  induction way generalizing l with
  | nil => exact h
  | cons segment way ih =>
    rw [List.foldlM_cons] at h ⊢
    cases hnext : fs.enter l segment with
    | error e =>
      rw [hnext] at h
      cases h
    | ok next =>
      rw [hnext] at h
      have hstart : AtMostMade fs fs' l := hmade [] segment way rfl
      rw [enter_of_atMostMade hdir hstart hnext]
      refine ih h fun front other back hway => ?_
      rw [enter_eq_step hnext]
      exact hmade (segment :: front) other back (by rw [hway, List.cons_append])

/-- A path that leads somewhere still leads there after directories were made in front of its last
segment. -/
theorem locate_of_atMostMade (hdir : fs'.workingDirectory = fs.workingDirectory) {p : Path}
    (h : fs.locate p = .ok l)
    (hmade : ∀ front segment back, segments p = front ++ segment :: back →
      AtMostMade fs fs' (front.foldl step (fs.start p))) :
    fs'.locate p = .ok l := by
  obtain ⟨htext, hway⟩ := locate_eq_ok_iff.mp h
  have hfold := foldlM_enter_of_atMostMade hdir hway hmade
  rw [start_congr hdir.symm rfl] at hfold
  exact locate_eq_ok_iff.mpr ⟨htext, hfold⟩

/-- A way leaves what is at and below a location only through that location. -/
theorem exists_prefix_of_leave {way : List String} (h : l' <+: l)
    (hleave : ¬ l' <+: way.foldl step l) : ∃ front, front <+: way ∧ front.foldl step l = l' := by
  induction way generalizing l with
  | nil => exact absurd h hleave
  | cons segment way ih =>
    by_cases hnext : l' <+: step l segment
    · obtain ⟨front, hfront, hl'⟩ := ih hnext hleave
      exact ⟨segment :: front, List.prefix_cons_inj segment |>.mpr hfront, hl'⟩
    · refine ⟨[], List.nil_prefix, ?_⟩
      rw [step] at hnext
      split_ifs at hnext with hdot hup
      · exact absurd h hnext
      · obtain ⟨rest, rfl⟩ := h
        rcases List.eq_nil_or_concat rest with rfl | ⟨init, last, rfl⟩
        · simp
        · refine absurd ?_ hnext
          rw [List.concat_eq_append, ← List.append_assoc, List.dropLast_concat]
          exact List.prefix_append _ _
      · exact absurd (h.trans (List.prefix_append _ _)) hnext

/-- A path that leads into a location and out of it leads through it. -/
theorem onWay_of_leave {p : Path} (hl : fs.OnWay p l) (h : l' <+: l)
    (hleave : ¬ l' <+: fs.place p) : fs.OnWay p l' := by
  obtain ⟨way, ⟨rest, hrest⟩, rfl⟩ := hl
  rw [place, ← hrest, List.foldl_append] at hleave
  obtain ⟨front, hfront, rfl⟩ := exists_prefix_of_leave h hleave
  refine ⟨way ++ front, ?_, by rw [List.foldl_append]⟩
  rw [← hrest]
  exact (List.prefix_append_right_inj way).mpr hfront

end Scaffold.FileSystem

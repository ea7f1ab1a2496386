import Scaffold.Proofs.Disk.Ways

/-!
# Trees of files

On a disk everything lies in a directory. So what is below a location that is not there is not there
either, and a path that does not go up leads to whatever directory is at its place: there is nothing
on its way that could keep it from being followed. A path that does go up may lead through a
directory that is not there, and then it misses what is at its place.

Moving takes a location away with everything below it and puts it down somewhere else, in place of
what was there.

## Main definitions

* `FileSystem.Apart`: two locations of which neither is at or below the other.
* `FileSystem.IsTree`: everything lies in a directory.

## Main results

* `at?_move_target`, `at?_move_source`, `at?_move_of_not_prefix`: what is where after a move.
* `IsTree.at?_of_prefix`: what is in front of something is a directory.
* `IsTree.locate_of_locate`: a path that does not go up leads to a directory that is at its place.
-/

namespace Scaffold.FileSystem

variable {fs fs' : FileSystem} {l l' source target : Location} {e : Entry}

/-! ### Moving -/

theorem lookup_map_key {entries : List (Location × Entry)} {f : Location → Location}
    (h : ∀ entry ∈ entries, f entry.1 = l' ↔ entry.1 = l) :
    (entries.map fun (k, e) => (f k, e)).lookup l' = entries.lookup l := by
  induction entries with
  | nil => rfl
  | cons entry rest ih =>
    obtain ⟨k, e⟩ := entry
    have hk : (l' == f k) = (l == k) := by
      rw [Bool.eq_iff_iff, beq_iff_eq, beq_iff_eq, eq_comm, h _ List.mem_cons_self, eq_comm]
    rw [List.map_cons, List.lookup_cons, List.lookup_cons, hk,
      ih fun entry hentry => h entry (List.mem_cons_of_mem _ hentry)]

theorem lookup_eq_none_of_forall_ne {entries : List (Location × Entry)}
    (h : ∀ entry ∈ entries, entry.1 ≠ l) : entries.lookup l = none := by
  refine List.lookup_eq_none_iff.mpr fun entry hentry => ?_
  rw [bne_iff_ne]
  exact (h entry hentry).symm

/-- Where an entry at a location is after a move. -/
def moved (source target l : Location) : Location :=
  if source.isPrefixOf l then target ++ l.drop source.length else l

theorem moved_append (source target rest : Location) :
    moved source target (source ++ rest) = target ++ rest := by
  rw [moved, if_pos (List.isPrefixOf_iff_prefix.mpr (List.prefix_append _ _)),
    List.drop_left]

theorem moved_eq_self (h : ¬ source <+: l) : moved source target l = l := by
  rw [moved, if_neg (by rwa [List.isPrefixOf_iff_prefix])]

theorem prefix_moved (h : source <+: l) : target <+: moved source target l := by
  obtain ⟨rest, rfl⟩ := h
  rw [moved_append]
  exact List.prefix_append _ _

theorem entries_move (fs : FileSystem) (source target : Location) :
    (fs.move source target).entries =
      (fs.erase target).entries.map fun (k, e) => (moved source target k, e) := rfl

theorem not_prefix_of_mem_erase {entry : Location × Entry}
    (h : entry ∈ (fs.erase target).entries) : ¬ target <+: entry.1 := by
  have hkept := (List.mem_filter.mp h).2
  rw [← List.isPrefixOf_iff_prefix, Bool.not_eq_true]
  simpa using hkept

/-- Neither of two locations is at or below the other. -/
structure Apart (source target : Location) : Prop where
  not_source : ¬ source <+: target
  not_target : ¬ target <+: source

namespace Apart

theorem source_ne_nil (h : Apart source target) : source ≠ [] := by
  rintro rfl
  exact h.not_source List.nil_prefix

theorem target_ne_nil (h : Apart source target) : target ≠ [] := by
  rintro rfl
  exact h.not_target List.nil_prefix

/-- Nothing is at or below both. -/
theorem not_prefix (h : Apart source target) (hsource : source <+: l) : ¬ target <+: l := by
  intro htarget
  rcases List.prefix_or_prefix_of_prefix hsource htarget with hbelow | hbelow
  · exact h.not_source hbelow
  · exact h.not_target hbelow

end Apart

/-- What was at and below the source is at and below the target. -/
theorem at?_move_target (h : Apart source target) (rest : Location) :
    (fs.move source target).at? (target ++ rest) = fs.at? (source ++ rest) := by
  have hne : target ++ rest ≠ [] := by simp [h.target_ne_nil]
  have hne' : source ++ rest ≠ [] := by simp [h.source_ne_nil]
  have hfree : ¬ target <+: source ++ rest := h.not_prefix (List.prefix_append _ _)
  rw [at?_of_ne_nil _ hne, entries_move, lookup_map_key (l := source ++ rest),
    ← at?_of_ne_nil _ hne', at?_erase_of_not_prefix _ hfree]
  intro entry hentry
  by_cases hsource : source <+: entry.1
  · obtain ⟨below, hbelow⟩ := hsource
    rw [← hbelow, moved_append, List.append_cancel_left_eq, List.append_cancel_left_eq]
  · rw [moved_eq_self hsource]
    constructor
    · intro heq
      exact absurd (heq ▸ List.prefix_append _ _) (not_prefix_of_mem_erase hentry)
    · intro heq
      exact absurd (heq ▸ List.prefix_append _ _) hsource

/-- Nothing is left at and below the source. -/
theorem at?_move_source (h : Apart source target) (hl : source <+: l) :
    (fs.move source target).at? l = none := by
  have hne : l ≠ [] := by
    rintro rfl
    exact h.source_ne_nil (List.prefix_nil.mp hl)
  rw [at?_of_ne_nil _ hne, entries_move]
  refine lookup_eq_none_of_forall_ne fun entry hentry => ?_
  obtain ⟨⟨k, e⟩, hentry, rfl⟩ := List.mem_map.mp hentry
  dsimp only
  rintro rfl
  by_cases hsource : source <+: k
  · exact h.not_prefix hl (prefix_moved hsource)
  · rw [moved_eq_self hsource] at hl
    exact hsource hl

/-- What is neither at or below the source nor at or below the target stays. -/
theorem at?_move_of_not_prefix (hsource : ¬ source <+: l) (htarget : ¬ target <+: l) :
    (fs.move source target).at? l = fs.at? l := by
  by_cases hnil : l = []
  · subst hnil
    rw [at?_nil, at?_nil]
  rw [at?_of_ne_nil _ hnil, entries_move, lookup_map_key (l := l), ← at?_of_ne_nil _ hnil,
    at?_erase_of_not_prefix _ htarget]
  intro entry hentry
  by_cases hbelow : source <+: entry.1
  · constructor
    · rintro rfl
      exact absurd (prefix_moved hbelow) htarget
    · intro heq
      exact absurd (heq ▸ hbelow) hsource
  · rw [moved_eq_self hbelow]

/-! ### Trees -/

/-- Everything lies in a directory. -/
def IsTree (fs : FileSystem) : Prop :=
  ∀ entry ∈ fs.entries, fs.at? entry.1.dropLast = some .directory

instance (fs : FileSystem) : Decidable fs.IsTree :=
  inferInstanceAs (Decidable (∀ entry ∈ fs.entries, fs.at? entry.1.dropLast = some .directory))

namespace IsTree

theorem at?_dropLast (h : fs.IsTree) (hat : fs.at? l = some e) :
    fs.at? l.dropLast = some .directory := by
  by_cases hnil : l = []
  · subst hnil
    exact fs.at?_nil
  · rw [at?_of_ne_nil _ hnil] at hat
    obtain ⟨before, after, hentries, -⟩ := List.lookup_eq_some_iff.mp hat
    exact h (l, e) (by simp [hentries])

/-- What is in front of something is a directory. -/
theorem at?_of_prefix (h : fs.IsTree) (hat : fs.at? l = some e) (hle : l' <+: l)
    (hne : l' ≠ l) : fs.at? l' = some .directory := by
  obtain ⟨rest, rfl⟩ := hle
  induction hlength : rest.length generalizing rest e with
  | zero => exact absurd (by simp [List.length_eq_zero_iff.mp hlength]) hne
  | succ n ih =>
    obtain ⟨init, last, rfl⟩ := (List.eq_nil_or_concat rest).resolve_left (by
      rintro rfl
      cases hlength)
    have hparent := h.at?_dropLast hat
    rw [List.concat_eq_append, ← List.append_assoc, List.dropLast_concat] at hparent
    by_cases hinit : init = []
    · rwa [hinit, List.append_nil] at hparent
    · exact ih init hparent (by simpa using hinit) (by simpa using hlength)

/-- On a way that does not go up and leads to a directory, nothing but the length of a name can keep
a segment from being entered; and the names are the same everywhere. -/
theorem foldlM_enter (h : fs.IsTree) {way : List String} (hup : ".." ∉ way)
    (hdirectory : fs.at? (way.foldl step l) = some .directory)
    (hfold : way.foldlM fs'.enter l = .ok l') : way.foldlM fs.enter l = .ok l' := by
  obtain ⟨hpassable, hend⟩ := (foldlM_enter_eq_ok_iff hup).mp hfold
  refine (foldlM_enter_eq_ok_iff hup).mpr ⟨⟨?_, hpassable.short⟩, hend⟩
  rintro front segment back rfl
  rw [List.mem_append, not_or] at hup
  have hbelow := prefix_foldl_step hup.2 (front.foldl step l)
  rw [← List.foldl_append] at hbelow
  by_cases heq : front.foldl step l = (front ++ segment :: back).foldl step l
  · rwa [heq]
  · exact h.at?_of_prefix hdirectory hbelow heq

/-- A path that does not go up leads to the directory at its place, if it leads anywhere in some
file system with the same working directory. -/
theorem locate_of_locate (h : fs.IsTree) {p : Path} (hup : ".." ∉ segments p)
    (hdirectory : fs.at? (fs.place p) = some .directory)
    (hdir : fs'.workingDirectory = fs.workingDirectory) (hlocate : fs'.locate p = .ok l) :
    fs.locate p = .ok (fs.place p) := by
  obtain ⟨htext, hfold⟩ := locate_eq_ok_iff.mp hlocate
  rw [start_congr hdir rfl] at hfold
  have hhere := h.foldlM_enter hup hdirectory hfold
  have hplace : l = fs.place p := foldlM_enter_eq hhere
  rw [← hplace]
  exact locate_eq_ok_iff.mpr ⟨htext, hhere⟩

end IsTree

end Scaffold.FileSystem

import Scaffold.Proofs.Path.Names
import Scaffold.Proofs.Path.Spelling

/-!
# Ways that do not go up

A way that does not go up can be followed exactly if one is in a directory before each of its
segments and none of its names is too long. So it can be followed wherever the same directories
are, and a file that was written through a path inside one directory is read through the same path
inside another that has the same contents.

## Main definitions

* `FileSystem.Passable`: a way can be followed from a location.
* `FileSystem.Leads`: a path that is no directory can be followed from a location.

## Main results

* `foldlM_enter_eq_ok_iff`: when a way that does not go up can be followed.
* `Leads.mono`: a path can be followed wherever the same directories are.
* `Leads.of_locate_join`, `Leads.readText_join`: what is found through a path inside a directory.
-/

namespace Scaffold.FileSystem

variable {fs fs' : FileSystem} {l l' root root' : Location} {way : List String} {p q : Path}

/-! ### Ways -/

/-- One is in a directory before each segment of a way, and none of its names is too long. -/
structure Passable (fs : FileSystem) (l : Location) (way : List String) : Prop where
  directory : ∀ front segment back, way = front ++ segment :: back →
    fs.at? (front.foldl step l) = some .directory
  short : ∀ n ∈ way, isName n = true → n.utf8ByteSize ≤ maxNameBytes

theorem passable_nil : fs.Passable l [] :=
  ⟨fun front segment back h => by simp at h, fun n hn => by simp at hn⟩

theorem passable_cons_iff {segment : String} :
    fs.Passable l (segment :: way) ↔
      (fs.at? l = some .directory ∧
        (isName segment = true → segment.utf8ByteSize ≤ maxNameBytes)) ∧
      fs.Passable (step l segment) way := by
  constructor
  · intro h
    refine ⟨⟨h.directory [] segment way rfl, h.short segment List.mem_cons_self⟩, ?_, ?_⟩
    · rintro front other back rfl
      exact h.directory (segment :: front) other back rfl
    · exact fun n hn => h.short n (List.mem_cons_of_mem _ hn)
  · rintro ⟨⟨hat, hshort⟩, hrest⟩
    refine ⟨fun front other back heq => ?_, fun n hn => ?_⟩
    · cases front with
      | nil => exact hat
      | cons first front =>
        obtain ⟨rfl, rfl⟩ := List.cons.inj heq
        exact hrest.directory front other back rfl
    · rcases List.mem_cons.mp hn with rfl | hn
      · exact hshort
      · exact hrest.short n hn

theorem enter_eq_ok_iff {segment : String} (hup : segment ≠ "..") :
    fs.enter l segment = .ok l' ↔
      (fs.at? l = some .directory ∧
        (isName segment = true → segment.utf8ByteSize ≤ maxNameBytes)) ∧ l' = step l segment := by
  by_cases hdot : segment = "."
  · subst hdot
    rw [enter, step_dot]
    cases hat : fs.at? l with
    | none => simp
    | some e => cases e <;> simp [isName, eq_comm]
  · have hname : isName segment = true := by simp [isName, hdot, hup]
    constructor
    · intro h
      obtain ⟨hat, hshort⟩ := enter_name_ok hname h
      exact ⟨⟨hat, fun _ => hshort⟩, enter_eq_step h⟩
    · rintro ⟨⟨hat, hshort⟩, rfl⟩
      rw [enter_name hname hat (hshort hname), step_name l hname]

/-- Without going up, a way leads on exactly if it is passable. -/
theorem foldlM_enter_eq_ok_iff (hup : ".." ∉ way) :
    way.foldlM fs.enter l = .ok l' ↔ fs.Passable l way ∧ l' = way.foldl step l := by
  induction way generalizing l with
  | nil =>
    have hnil : ([] : List String).foldlM fs.enter l = .ok l := rfl
    rw [hnil, Except.ok.injEq, List.foldl_nil]
    exact ⟨fun h => ⟨passable_nil, h.symm⟩, fun h => h.2.symm⟩
  | cons segment way ih =>
    rw [List.mem_cons, not_or] at hup
    rw [List.foldlM_cons, List.foldl_cons, passable_cons_iff]
    cases hnext : fs.enter l segment with
    | error e =>
      have hnone : ¬ (fs.at? l = some .directory ∧
          (isName segment = true → segment.utf8ByteSize ≤ maxNameBytes)) := by
        intro hfree
        cases hnext.symm.trans ((enter_eq_ok_iff (Ne.symm hup.1)).mpr ⟨hfree, rfl⟩)
      have herror : ((.error e : Except DiskError Location) >>= way.foldlM fs.enter) = .error e :=
        rfl
      rw [herror]
      exact ⟨fun h => (nomatch h), fun h => absurd h.1.1 hnone⟩
    | ok next =>
      obtain ⟨hfree, rfl⟩ := (enter_eq_ok_iff (Ne.symm hup.1)).mp hnext
      have hok : ((.ok (step l segment) : Except DiskError Location) >>= way.foldlM fs.enter) =
          way.foldlM fs.enter (step l segment) := rfl
      rw [hok, ih hup.2]
      exact ⟨fun h => ⟨⟨hfree, h.1⟩, h.2⟩, fun h => ⟨h.1.2, h.2⟩⟩

/-- A way is passable wherever the same directories are. -/
theorem Passable.mono (h : fs.Passable root way) (hup : ".." ∉ way)
    (hdirectory : ∀ l, fs.at? (root ++ l) = some .directory →
      fs'.at? (root' ++ l) = some .directory) : fs'.Passable root' way := by
  refine ⟨fun front segment back heq => ?_, h.short⟩
  have hfront : ".." ∉ front := by
    intro hmem
    exact hup (heq ▸ List.mem_append_left _ hmem)
  have hhere := h.directory front segment back heq
  rw [foldl_step_eq_append hfront] at hhere ⊢
  exact hdirectory _ hhere

/-! ### Paths -/

/-- A path can be followed from a location, and it asks for no directory there. -/
structure Leads (fs : FileSystem) (root : Location) (q : Path) : Prop where
  passable : fs.Passable root (segments q)
  no_nul : '\x00' ∉ q.text.toList
  named : asksForDirectory q = false

theorem Leads.mono (h : fs.Leads root q) (hq : q.isInner = true)
    (hdirectory : ∀ l, fs.at? (root ++ l) = some .directory →
      fs'.at? (root' ++ l) = some .directory) : fs'.Leads root' q :=
  ⟨h.passable.mono (Path.not_mem_segments_of_isInner hq).2 hdirectory, h.no_nul, h.named⟩

/-- What is joined is in the text of the joined path, behind at most a slash. -/
theorem exists_text_join (p : Path) (hq : q.isAbsolute = false) :
    ∃ between, (between = "" ∨ between = "/") ∧
      (p.join q).text = p.text ++ between ++ q.text := by
  rw [Path.join, if_neg (by simp [hq])]
  split_ifs
  · exact ⟨"", .inl rfl, by simp⟩
  · exact ⟨"/", .inr rfl, rfl⟩

theorem nul_mem_join_iff (p : Path) (hq : q.isAbsolute = false) :
    '\x00' ∈ (p.join q).text.toList ↔ '\x00' ∈ p.text.toList ∨ '\x00' ∈ q.text.toList := by
  obtain ⟨between, rfl | rfl, htext⟩ := exists_text_join p hq <;> simp [htext]

theorem asksForDirectory_join (p : Path) (hq : q.isAbsolute = false) (hne : q.text ≠ "") :
    asksForDirectory (p.join q) = asksForDirectory q := by
  obtain ⟨between, -, htext⟩ := exists_text_join p hq
  have hlast : q.text.toList.getLast? ≠ none := by simpa using hne
  obtain ⟨c, hc⟩ := Option.ne_none_iff_exists'.mp hlast
  rw [asksForDirectory, asksForDirectory, htext, String.toList_append, List.getLast?_append, hc]
  rfl

/-- A path inside a directory that leads somewhere can be followed from that directory. -/
theorem Leads.of_locate_join (hq : q.isInner = true) (h : fs.locate (p.join q) = .ok l)
    (hnamed : asksForDirectory (p.join q) = false) : fs.Leads (fs.place p) q := by
  obtain ⟨hrelative, hup⟩ := Path.not_mem_segments_of_isInner hq
  obtain ⟨⟨hnul, -, -⟩, hway⟩ := locate_eq_ok_iff.mp h
  rw [nul_mem_join_iff p hrelative, not_or] at hnul
  rw [asksForDirectory_join p hrelative (Path.isInner_iff.mp hq).1] at hnamed
  rw [segments_join hrelative, start_congr rfl (isAbsolute_join hrelative),
    List.foldlM_append] at hway
  cases hfront : (segments p).foldlM fs.enter (fs.start p) with
  | error e =>
    rw [hfront] at hway
    cases hway
  | ok next =>
    rw [hfront] at hway
    have hnext : next = fs.place p := foldlM_enter_eq hfront
    subst hnext
    exact ⟨((foldlM_enter_eq_ok_iff hup).mp hway).1, hnul.2, hnamed⟩

/-- A file is read through a path that can be followed from a directory, if there is a path to that
directory and the two together are not too long. -/
theorem Leads.readText_join (h : fs.Leads (fs.place p) q) (hq : q.isInner = true)
    (hp : fs.locate p = .ok (fs.place p))
    (hsize : (p.join q).text.utf8ByteSize ≤ maxPathBytes) {text : String}
    (hat : fs.at? (fs.place p ++ q.location) = some (.file (.text text))) :
    fs.readText (p.join q) = .ok text := by
  obtain ⟨hrelative, hup⟩ := Path.not_mem_segments_of_isInner hq
  obtain ⟨⟨hnul, hne, -⟩, hfront⟩ := locate_eq_ok_iff.mp hp
  have hfree : '\x00' ∉ (p.join q).text.toList := by
    rw [nul_mem_join_iff p hrelative]
    exact not_or.mpr ⟨hnul, h.no_nul⟩
  have hway : (segments (p.join q)).foldlM fs.enter (fs.start (p.join q)) =
      .ok (fs.place p ++ q.location) := by
    rw [segments_join hrelative, start_congr rfl (isAbsolute_join hrelative), List.foldlM_append,
      hfront]
    refine (foldlM_enter_eq_ok_iff hup).mpr ⟨h.passable, ?_⟩
    rw [foldl_step_eq_append hup, Path.location]
  have hlocate := locate_eq_ok_iff.mpr ⟨⟨hfree, Path.text_join_ne hne q, hsize⟩, hway⟩
  have hnamed : asksForDirectory (p.join q) = false := by
    rw [asksForDirectory_join p hrelative (Path.isInner_iff.mp hq).1, h.named]
  rw [readText, look_of_locate hlocate hat hnamed]

end Scaffold.FileSystem

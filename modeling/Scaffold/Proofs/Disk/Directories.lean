import Scaffold.Disk.Storage
import Scaffold.Proofs.Disk.Places

/-!
# Making directories and writing files

A directory is made together with those that lead to it. Whatever happens on the way, nothing but
directories is made, only where nothing was, and only at locations that the path leads through.
This is one induction, over the paths that are tried one after the other; each of them is the parent
of the one before.

Writing a file changes what is at one place, where there was a file before or nothing. Paths do not
lead through files, so every path that led somewhere still leads there, and every file is still a
file. The one exception is the working directory after it was removed: paths lead up from it as long
as nothing takes its place.

## Main definitions

* `Changes`: one file system came from another by making directories on some ways, and by anything
  in a part of the file system that is given away.
* `FileSystem.CanWrite`: a file can be written at a path.

## Main results

* `createDirectories_changes`: a directory is made with nothing but directories on its way.
* `createDirectories_ok`: a directory that was made is there.
* `createDirectories_error`: if it cannot be made, only directories in front of it were made.
* `writeFile_of_canWrite`: a file is written.
* `readText_put`: it is read back.
* `stat?_put_of_file`: what was a file still is one.
-/

namespace Scaffold

/-- What is seen of an entry without reading it. -/
def Entry.kind : Entry → EntryKind
  | .directory => .directory
  | .file _ => .file

/-! ### Operations of a session -/

namespace Session

variable {α β : Type}

theorem run_bind (x : StateM Session α) (f : α → StateM Session β) (s : Session) :
    (x >>= f).run s = (f (x.run s).1).run (x.run s).2 := rfl

theorem run_change_ok {f : FileSystem → Except DiskError FileSystem} {s : Session}
    {files : FileSystem} (h : f s.files = .ok files) :
    (Session.change f).run s = (.ok (), { s with files := files }) := by
  simp [Session.change, StateT.run, h]

/-- An operation changes the files, or it is refused and they stay as they are. -/
theorem run_change_cases (f : FileSystem → Except DiskError FileSystem) (s : Session) :
    (∃ files, f s.files = .ok files ∧
      (Session.change f).run s = (.ok (), { s with files := files })) ∨
    ∃ e, f s.files = .error e ∧ (Session.change f).run s = (.error e, s) := by
  cases hf : f s.files with
  | ok files => exact .inl ⟨files, rfl, run_change_ok hf⟩
  | error e => exact .inr ⟨e, rfl, by simp [Session.change, StateT.run, hf]⟩

theorem run_stat (p : Path) (s : Session) :
    (Storage.stat p : StateM Session _).run s = ((s.files.stat? p).map Entry.kind, s) := rfl

theorem run_isDirectory (p : Path) (s : Session) :
    (Storage.isDirectory p : StateM Session Bool).run s =
      (decide (s.files.stat? p = some .directory), s) := by
  rw [Storage.isDirectory, run_bind, run_stat]
  cases s.files.stat? p with
  | none => rfl
  | some e => cases e <;> rfl

end Session

/-! ### What is changed -/

/-- One file system came from another by making directories on some ways, and by anything where it
is given away. -/
structure Changes (given ways : Location → Prop) (before after : FileSystem) : Prop where
  workingDirectory : after.workingDirectory = before.workingDirectory
  outside : ∀ l, ¬ given l → after.at? l = before.at? l ∨
    ways l ∧ before.at? l = none ∧ after.at? l = some .directory

namespace Changes

variable {given given' ways ways' : Location → Prop} {a b c : FileSystem}

theorem rfl : Changes given ways a a :=
  ⟨Eq.refl _, fun _ _ => .inl (Eq.refl _)⟩

theorem trans (h : Changes given ways a b) (h' : Changes given ways b c) :
    Changes given ways a c := by
  refine ⟨h'.workingDirectory.trans h.workingDirectory, fun l hl => ?_⟩
  rcases h'.outside l hl with hsame' | ⟨hway, hnone, hmade⟩
  · rw [hsame']
    exact h.outside l hl
  · rcases h.outside l hl with hsame | ⟨-, -, hmade'⟩
    · exact .inr ⟨hway, hsame ▸ hnone, hmade⟩
    · exact absurd (hmade'.symm.trans hnone) (by simp)

theorem mono (h : Changes given ways a b) (hgiven : ∀ l, given l → given' l)
    (hways : ∀ l, ¬ given' l → ways l → ways' l) : Changes given' ways' a b := by
  refine ⟨h.workingDirectory, fun l hl => ?_⟩
  rcases h.outside l fun hg => hl (hgiven l hg) with hsame | ⟨hway, hmade⟩
  · exact .inl hsame
  · exact .inr ⟨hways l hl hway, hmade⟩

/-- Where no ways are given, nothing is changed but where it is given away. -/
theorem at?_eq (h : Changes given (fun _ => False) a b) {l : Location} (hl : ¬ given l) :
    b.at? l = a.at? l :=
  (h.outside l hl).resolve_right fun hway => hway.1

theorem atMostMade (h : Changes given ways a b) {l : Location} (hl : ¬ given l) :
    a.AtMostMade b l :=
  (h.outside l hl).imp_right And.right

end Changes

namespace FileSystem

variable {fs fs' : FileSystem} {p : Path}

@[simp] theorem workingDirectory_put (fs : FileSystem) (l : Location) (e : Entry) :
    (fs.put l e).workingDirectory = fs.workingDirectory := by
  rw [put]
  split_ifs <;> rfl

theorem onWay_congr {before after : FileSystem}
    (hdir : after.workingDirectory = before.workingDirectory) (p : Path) :
    after.OnWay p = before.OnWay p := by
  funext l
  rw [OnWay, OnWay, start_congr hdir rfl]

theorem onWay_of_parent? {p q : Path} (h : p.parent? = some q) {l : Location}
    (hl : fs.OnWay q l) : fs.OnWay p l := by
  obtain ⟨way, hway, rfl⟩ := hl
  exact ⟨way, hway.trans (segments_of_parent? h),
    by rw [start_congr rfl (Path.isAbsolute_of_parent? h)]⟩

theorem createDirectory_ok (h : fs.createDirectory p = .ok fs') :
    fs.locate p = .ok (fs.place p) ∧ fs.at? (fs.place p) = none ∧
      fs' = fs.put (fs.place p) .directory := by
  rw [createDirectory] at h
  split at h
  · exact absurd h (by simp)
  · next l hl =>
    obtain rfl := locate_eq_place hl
    split_ifs at h with hat
    exact ⟨hl, by simpa using hat, (Except.ok.inj h).symm⟩

theorem ne_nil_of_at?_eq_none {l : Location} (h : fs.at? l = none) : l ≠ [] := by
  rintro rfl
  simp at h

theorem changes_put_directory {given ways : Location → Prop} {l : Location}
    (hnone : fs.at? l = none) (hl : ways l) :
    Changes given ways fs (fs.put l .directory) := by
  refine ⟨workingDirectory_put _ _ _, fun l' _ => ?_⟩
  rw [at?_put _ (ne_nil_of_at?_eq_none hnone)]
  split_ifs with heq
  · subst heq
    exact .inr ⟨hl, hnone, rfl⟩
  · exact .inl rfl

end FileSystem

/-! ### Directories with those that lead to them -/

namespace Storage

/-- What can happen when a directory is asked for: it is made, it is there, or it is refused. -/
theorem ensureDirectory_cases (p : Path) (s : Session) :
    (∃ files, s.files.createDirectory p = .ok files ∧
      (ensureDirectory p : StateM Session _).run s = (.ok (), { s with files := files })) ∨
    (s.files.stat? p = some .directory ∧
      (ensureDirectory p : StateM Session _).run s = (.ok (), s)) ∨
    ∃ e, (ensureDirectory p : StateM Session _).run s = (.error e, s) := by
  have hcreate : (createDirectory p : StateM Session _) =
      Session.change (·.createDirectory p) := rfl
  rw [ensureDirectory, Session.run_bind, hcreate]
  rcases Session.run_change_cases (·.createDirectory p) s with
    ⟨files, hmake, hrun⟩ | ⟨e, -, hrun⟩
  · rw [hrun]
    exact .inl ⟨files, hmake, rfl⟩
  · rw [hrun]
    dsimp only
    rw [Session.run_bind, Session.run_isDirectory]
    by_cases hstat : s.files.stat? p = some .directory
    · exact .inr (.inl ⟨hstat, by rw [decide_eq_true hstat]; rfl⟩)
    · exact .inr (.inr ⟨e, by rw [decide_eq_false hstat]; rfl⟩)

theorem ensureDirectory_changes (given : Location → Prop) (p : Path) (s : Session) :
    Changes given (s.files.OnWay p) s.files
      ((ensureDirectory p : StateM Session _).run s).2.files := by
  rcases ensureDirectory_cases p s with ⟨files, hmake, hrun⟩ | ⟨-, hrun⟩ | ⟨e, hrun⟩
  · obtain ⟨-, hnone, rfl⟩ := FileSystem.createDirectory_ok hmake
    rw [hrun]
    exact FileSystem.changes_put_directory hnone (s.files.onWay_place p)
  · rw [hrun]
    exact .rfl
  · rw [hrun]
    exact .rfl

/-- A directory that was made or was there is found. -/
theorem ensureDirectory_ok {p : Path} {s s' : Session}
    (hrun : (ensureDirectory p : StateM Session _).run s = (.ok (), s')) :
    s'.files.look p = .ok (s'.files.place p, .directory) := by
  rcases ensureDirectory_cases p s with ⟨files, hmake, hrun'⟩ | ⟨hstat, hrun'⟩ | ⟨e, hrun'⟩
  · obtain ⟨hlocate, hnone, rfl⟩ := FileSystem.createDirectory_ok hmake
    obtain rfl := (Prod.mk.inj (hrun.symm.trans hrun')).2
    have hmade : Changes (fun _ => False) (s.files.OnWay p) s.files _ :=
      FileSystem.changes_put_directory hnone (s.files.onWay_place p)
    have hplace : s.files.place p = (s.files.put (s.files.place p) .directory).place p :=
      FileSystem.place_congr hmade.workingDirectory.symm p
    have hlocate' := FileSystem.locate_of_atMostMade hmade.workingDirectory hlocate
      fun _ _ _ _ => hmade.atMostMade not_false
    refine FileSystem.look_directory (hplace ▸ hlocate') ?_
    rw [← hplace, FileSystem.at?_put _ (FileSystem.ne_nil_of_at?_eq_none hnone), if_pos rfl]
  · obtain rfl := (Prod.mk.inj (hrun.symm.trans hrun')).2
    obtain ⟨l, hlook⟩ := FileSystem.stat?_eq_some_iff.mp hstat
    rwa [FileSystem.locate_eq_place (FileSystem.look_eq_ok hlook).1] at hlook
  · exact absurd (Prod.mk.inj (hrun.symm.trans hrun')).1 (by simp)

/-- The directories that lead to a directory are made by trying one path after the other, each the
parent of the one before. -/
theorem run_createDirectoriesWithin_succ (depth : Nat) (p : Path) (s : Session) :
    (createDirectoriesWithin (depth + 1) p : StateM Session _).run s =
      if p.text = "" then (.ok (), s)
      else
        match (ensureDirectory p : StateM Session _).run s, p.parent? with
        | (.error .notFound, s'), none => (.error (.other "failed to create whole tree"), s')
        | (.error .notFound, s'), some parent =>
          match (createDirectoriesWithin depth parent : StateM Session _).run s' with
          | (.error e, s'') => (.error e, s'')
          | (.ok (), s'') => (ensureDirectory p : StateM Session _).run s''
        | result, _ => result := by
  rw [createDirectoriesWithin]
  split_ifs with hempty
  · rfl
  · rw [Session.run_bind]
    obtain ⟨result, s'⟩ := (ensureDirectory p : StateM Session _).run s
    rcases result with e | ⟨⟨⟩⟩
    · cases e
      case notFound =>
        cases p.parent? with
        | none => rfl
        | some parent =>
          dsimp only
          rw [Session.run_bind]
          obtain ⟨result, s''⟩ := (createDirectoriesWithin depth parent : StateM Session _).run s'
          cases result <;> rfl
      all_goals cases p.parent? <;> rfl
    · cases p.parent? <;> rfl

/-- Whatever happens, only directories on the way of the path are made. -/
theorem createDirectoriesWithin_changes (given : Location → Prop) (depth : Nat) (p : Path)
    (s : Session) :
    Changes given (s.files.OnWay p) s.files
      ((createDirectoriesWithin depth p : StateM Session _).run s).2.files := by
  induction depth generalizing p s with
  | zero => exact ensureDirectory_changes given p s
  | succ depth ih =>
    have hfirst := ensureDirectory_changes given p s
    rw [run_createDirectoriesWithin_succ]
    split_ifs with hempty
    · exact .rfl
    split
    · next s' hrun _ => rwa [hrun] at hfirst
    · next s' parent hrun hparent =>
      rw [hrun] at hfirst
      have hdir := hfirst.workingDirectory
      have hsecond := (ih parent s').mono (fun _ => id) fun l _ hl =>
        FileSystem.onWay_congr hdir p ▸ FileSystem.onWay_of_parent? hparent hl
      split
      · next e s'' hrun' =>
        rw [hrun'] at hsecond
        exact hfirst.trans hsecond
      · next s'' hrun' =>
        rw [hrun'] at hsecond
        have hall := hfirst.trans hsecond
        have hthird := (ensureDirectory_changes given p s'').mono (fun _ => id) fun l _ hl =>
          FileSystem.onWay_congr hall.workingDirectory p ▸ hl
        exact hall.trans hthird
    · exact hfirst

theorem createDirectories_changes (given : Location → Prop) (p : Path) (s : Session) :
    Changes given (s.files.OnWay p) s.files
      ((createDirectories p : StateM Session _).run s).2.files :=
  createDirectoriesWithin_changes given _ p s

theorem ensureDirectory_error {p : Path} {s s' : Session} {e : DiskError}
    (hrun : (ensureDirectory p : StateM Session _).run s = (.error e, s')) : s' = s := by
  rcases ensureDirectory_cases p s with ⟨files, -, hrun'⟩ | ⟨-, hrun'⟩ | ⟨e', hrun'⟩
  · exact absurd (Prod.mk.inj (hrun.symm.trans hrun')).1 (by simp)
  · exact absurd (Prod.mk.inj (hrun.symm.trans hrun')).1 (by simp)
  · exact (Prod.mk.inj (hrun.symm.trans hrun')).2

/-- A directory that was made with those that lead to it is found. -/
theorem createDirectories_ok {p : Path} (hp : p.text ≠ "") {s s' : Session}
    (hrun : (createDirectories p : StateM Session _).run s = (.ok (), s')) :
    s'.files.look p = .ok (s'.files.place p, .directory) := by
  rw [createDirectories, run_createDirectoriesWithin_succ, if_neg hp] at hrun
  split at hrun
  · exact absurd (Prod.mk.inj hrun).1 (by simp)
  · split at hrun
    · exact absurd (Prod.mk.inj hrun).1 (by simp)
    · exact ensureDirectory_ok hrun
  · exact ensureDirectory_ok hrun

/-- If a directory cannot be made, only directories in front of it were made. -/
theorem createDirectories_error {given : Location → Prop} {p : Path} {s s' : Session}
    {e : DiskError} (hrun : (createDirectories p : StateM Session _).run s = (.error e, s')) :
    Changes given (fun l => ∃ parent, p.parent? = some parent ∧ s.files.OnWay parent l)
      s.files s'.files := by
  rw [createDirectories, run_createDirectoriesWithin_succ] at hrun
  split_ifs at hrun
  · exact absurd (Prod.mk.inj hrun).1 (by simp)
  split at hrun
  · next s₁ hfirst _ =>
    obtain rfl := ensureDirectory_error hfirst
    obtain rfl := (Prod.mk.inj hrun).2
    exact .rfl
  · next s₁ parent hfirst hparent =>
    obtain rfl := ensureDirectory_error hfirst
    have hways := (createDirectoriesWithin_changes given p.components.length parent s₁).mono
      (fun _ => id) fun l _ hl => (⟨parent, hparent, hl⟩ :
        ∃ parent, p.parent? = some parent ∧ s₁.files.OnWay parent l)
    split at hrun
    · next e' s₂ hsecond =>
      obtain rfl := (Prod.mk.inj hrun).2
      rwa [hsecond] at hways
    · next s₂ hsecond =>
      obtain rfl := ensureDirectory_error hrun
      rwa [hsecond] at hways
  · obtain rfl := ensureDirectory_error hrun
    exact .rfl

end Storage

/-! ### Files that were written -/

namespace FileSystem

variable {fs : FileSystem} {l l' target : Location} {p q : Path} {content : Content}

/-- A file can be written at a path: the path leads somewhere, and there is no directory. It is not
the place of the working directory either, which may have been removed and can still be left. -/
structure CanWrite (fs : FileSystem) (p : Path) : Prop where
  leads : fs.locate p = .ok (fs.place p)
  named : asksForDirectory p = false
  free : fs.at? (fs.place p) ≠ some .directory
  notHere : fs.place p ≠ fs.workingDirectory

theorem writeFile_of_canWrite (h : fs.CanWrite p) (content : Content) :
    fs.writeFile p content = .ok (fs.put (fs.place p) (.file content)) := by
  rw [writeFile, h.leads]
  dsimp only
  rw [if_neg (by simp [h.named, h.free])]

theorem ne_nil_of_not_directory (h : fs.at? l ≠ some .directory) : l ≠ [] := by
  rintro rfl
  exact h (at?_nil fs)

/-- A path leads on from where it led on before a file was written. -/
theorem enter_put (hfree : fs.at? target ≠ some .directory)
    (hnotHere : target ≠ fs.workingDirectory) {segment : String}
    (h : fs.enter l segment = .ok l') (content : Content) :
    (fs.put target (.file content)).enter l segment = .ok l' := by
  have hl : l ≠ target := by
    rintro rfl
    rw [enter] at h
    split at h
    · rw [if_neg (by simp [hnotHere])] at h
      cases h
    · cases h
    · next hat => exact hfree hat
  rw [enter, at?_put fs (ne_nil_of_not_directory hfree), if_neg hl, workingDirectory_put]
  exact h

theorem foldlM_enter_put (hfree : fs.at? target ≠ some .directory)
    (hnotHere : target ≠ fs.workingDirectory) {way : List String}
    (h : way.foldlM fs.enter l = .ok l') (content : Content) :
    way.foldlM (fs.put target (.file content)).enter l = .ok l' := by
  induction way generalizing l with
  | nil => exact h
  | cons segment way ih =>
    rw [List.foldlM_cons] at h ⊢
    cases hnext : fs.enter l segment with
    | error e =>
      rw [hnext] at h
      cases h
    | ok next =>
      rw [hnext] at h
      rw [enter_put hfree hnotHere hnext]
      exact ih h

/-- A path leads where it led before a file was written. -/
theorem locate_put (hp : fs.CanWrite p) (h : fs.locate q = .ok l) (content : Content) :
    (fs.put (fs.place p) (.file content)).locate q = .ok l := by
  obtain ⟨htext, hway⟩ := locate_eq_ok_iff.mp h
  refine locate_eq_ok_iff.mpr ⟨htext, ?_⟩
  rw [start, workingDirectory_put, ← start]
  exact foldlM_enter_put hp.free hp.notHere hway content

/-- A file that was written is read. -/
theorem readText_put (h : fs.CanWrite p) (text : String) :
    (fs.put (fs.place p) (.file (.text text))).readText p = .ok text := by
  have hat := at?_put fs (ne_nil_of_not_directory h.free) (.file (.text text)) (fs.place p)
  rw [if_pos rfl] at hat
  rw [readText, look_of_locate (locate_put h h.leads _) hat h.named]

/-- What was a file before a file was written is one afterwards. -/
theorem stat?_put_of_file (hp : fs.CanWrite p) (content : Content) {c : Content}
    (h : fs.stat? q = some (.file c)) :
    ∃ c', (fs.put (fs.place p) (.file content)).stat? q = some (.file c') := by
  obtain ⟨l, hlook⟩ := stat?_eq_some_iff.mp h
  obtain ⟨hlocate, hat⟩ := look_eq_ok hlook
  have hslash : asksForDirectory q = false := by
    rw [look, hlocate] at hlook
    dsimp only at hlook
    rw [hat] at hlook
    dsimp only at hlook
    split_ifs at hlook with hslash
    simpa using hslash
  have hat' := at?_put fs (ne_nil_of_not_directory hp.free) (.file content) l
  split_ifs at hat' with heq
  · exact ⟨content, stat?_eq_some_iff.mpr
      ⟨l, look_of_locate (locate_put hp hlocate _) hat' hslash⟩⟩
  · exact ⟨c, stat?_eq_some_iff.mpr
      ⟨l, look_of_locate (locate_put hp hlocate _) (hat'.trans hat) hslash⟩⟩

end FileSystem

end Scaffold

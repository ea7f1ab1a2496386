import Scaffold.Packaging.Basic
import Scaffold.Proofs.Disk.Directories
import Scaffold.Proofs.Packaging.Beside

/-!
# Steps of packaging

Packaging goes step by step, and a step that fails ends it. Here is what can be said of a run that
failed or went through, step by step, and what each of the steps does to the files.

## Main definitions

* `Packing`, `Packing.outcome`: packaging in a session.
* `Builds`: one file system came from another by building at and below a location.

## Main results

* `Session.bind_error`, `Session.bind_ok`: where a run failed, and what it did if it did not.
* `dropUnfinished_files`: an incomplete output is removed if it is found.
* `placeFile_builds`, `forM_placeFile_builds`: the files of a project are written below its root.
-/

namespace Scaffold

/-- Packaging in a session. -/
abbrev Packing := ExceptT PackagingError (StateM Session)

/-- What packaging does in a session: its result, and the session afterwards. -/
def Packing.outcome (pack : Packing Unit) (s : Session) : Except PackagingError Unit × Session :=
  pack.run.run s

namespace Session

variable {ε α β : Type} {x : ExceptT ε (StateM Session) α} {f : α → ExceptT ε (StateM Session) β}
  {s s' : Session} {e : ε}

theorem runExcept_bind (x : ExceptT ε (StateM Session) α)
    (f : α → ExceptT ε (StateM Session) β) (s : Session) :
    (x >>= f).run.run s =
      match x.run.run s with
      | (.ok a, s') => (f a).run.run s'
      | (.error e, s') => (.error e, s') := by
  rw [ExceptT.run_bind, run_bind]
  rcases x.run.run s with ⟨e | a, s'⟩ <;> rfl

/-- A run that failed failed in its first step or behind it. -/
theorem bind_error (h : (x >>= f).run.run s = (.error e, s')) :
    x.run.run s = (.error e, s') ∨
      ∃ a s₁, x.run.run s = (.ok a, s₁) ∧ (f a).run.run s₁ = (.error e, s') := by
  rw [runExcept_bind] at h
  split at h
  · next a s₁ hx => exact .inr ⟨a, s₁, hx, h⟩
  · next e' s₁ hx =>
    cases h
    exact .inl hx

/-- A run that went through went through its first step and through what is behind it. -/
theorem bind_ok {b : β} (h : (x >>= f).run.run s = (.ok b, s')) :
    ∃ a s₁, x.run.run s = (.ok a, s₁) ∧ (f a).run.run s₁ = (.ok b, s') := by
  rw [runExcept_bind] at h
  split at h
  · next a s₁ hx => exact ⟨a, s₁, hx, h⟩
  · cases h

end Session

theorem run_isThere (p : Path) (s : Session) :
    (isThere p : Packing Bool).run.run s = (.ok (s.files.stat? p).isSome, s) := by
  have hrun : (isThere p : Packing Bool).run.run s =
      (.ok ((s.files.stat? p).map Entry.kind).isSome, s) := rfl
  rw [hrun, Option.isSome_map]

theorem run_attempt {α : Type} (explain : DiskError → PackagingError)
    (action : StateM Session (Except DiskError α)) (s : Session) :
    (attempt explain action : Packing α).run.run s =
      ((action.run s).1.mapError explain, (action.run s).2) := rfl

/-- An operation that is attempted changes the files, or it ends the packaging with its reason. -/
theorem run_attempt_change (explain : DiskError → PackagingError)
    (f : FileSystem → Except DiskError FileSystem) (s : Session) :
    (∃ files, f s.files = .ok files ∧ (attempt explain (Session.change f) :
      Packing Unit).run.run s = (.ok (), { s with files := files })) ∨
    ∃ cause, f s.files = .error cause ∧ (attempt explain (Session.change f) :
      Packing Unit).run.run s = (.error (explain cause), s) := by
  rw [run_attempt]
  rcases Session.run_change_cases f s with ⟨files, hf, hrun⟩ | ⟨cause, hf, hrun⟩
  · exact .inl ⟨files, hf, by rw [hrun]; rfl⟩
  · exact .inr ⟨cause, hf, by rw [hrun]; rfl⟩

theorem run_attempt_error {α : Type} {explain : DiskError → PackagingError}
    {action : StateM Session (Except DiskError α)} {s s' : Session} {e : PackagingError}
    (h : (attempt explain action : Packing α).run.run s = (.error e, s')) :
    ∃ cause, e = explain cause ∧ action.run s = (.error cause, s') := by
  rw [run_attempt] at h
  rcases haction : action.run s with ⟨cause | a, s₁⟩
  · rw [haction] at h
    cases h
    exact ⟨cause, rfl, rfl⟩
  · rw [haction] at h
    cases h

theorem run_attempt_ok {α : Type} {explain : DiskError → PackagingError}
    {action : StateM Session (Except DiskError α)} {s s' : Session} {a : α}
    (h : (attempt explain action : Packing α).run.run s = (.ok a, s')) :
    action.run s = (.ok a, s') := by
  rw [run_attempt] at h
  rcases haction : action.run s with ⟨cause | a, s₁⟩
  · rw [haction] at h
    cases h
  · rw [haction] at h
    cases h
    rfl

/-- What is dropped depends on nothing but how the building ended. -/
theorem run_orDrop (unfinished : Path) (build : Packing Unit) (s : Session) :
    (orDrop unfinished build).run.run s =
      (orDrop unfinished (ExceptT.mk (pure (build.run.run s).1)) : Packing Unit).run.run
        (build.run.run s).2 := rfl

theorem run_orDrop_error {unfinished : Path} {build : Packing Unit} {s s' : Session}
    {e : PackagingError} (h : build.run.run s = (.error e, s')) :
    (orDrop unfinished build).run.run s =
      (.error e, ((dropUnfinished unfinished : StateM Session Unit).run s').2) := by
  rw [run_orDrop, h]
  rfl

theorem run_orDrop_ok {unfinished : Path} {build : Packing Unit} {s s' : Session}
    (h : build.run.run s = (.ok (), s')) :
    (orDrop unfinished build).run.run s = (.ok (), s') := by
  rw [run_orDrop, h]
  rfl

/-! ### An incomplete output -/

namespace FileSystem

variable {fs fs' : FileSystem} {p : Path}

theorem writeFile_ok {content : Content} (h : fs.writeFile p content = .ok fs') :
    fs.locate p = .ok (fs.place p) ∧ asksForDirectory p = false ∧
      fs.at? (fs.place p) ≠ some .directory ∧ fs' = fs.put (fs.place p) (.file content) := by
  rw [writeFile] at h
  split at h
  · exact absurd h (by simp)
  · next l hl =>
    obtain rfl := locate_eq_place hl
    split_ifs at h with hrefused
    rw [Bool.or_eq_true, decide_eq_true_eq, not_or] at hrefused
    exact ⟨hl, by simpa using hrefused.1, hrefused.2, (Except.ok.inj h).symm⟩

/-- A directory at the end of a path that names it is removed. -/
theorem removeTree_of_look {l : Location} {name : String} (h : fs.look p = .ok (l, .directory))
    (hlast : (segments p).getLast? = some name) (hname : isName name = true) :
    fs.removeTree p = (.ok (), fs.erase l) := by
  simp only [isName, Bool.and_eq_true, bne_iff_ne] at hname
  rw [removeTree, h]
  dsimp only
  rw [hlast]
  split
  · contradiction
  · next heq => exact absurd (Option.some.inj heq) hname.1
  · next heq => exact absurd (Option.some.inj heq) hname.2
  · rfl

theorem removeFile_of_look {l : Location} {content : Content}
    (h : fs.look p = .ok (l, .file content)) : fs.removeFile p = .ok (fs.erase l) := by
  rw [removeFile, h]

end FileSystem

/-- An incomplete output is removed if it is found, and otherwise the files stay as they are. -/
theorem dropUnfinished_files {p : Path} {name : String}
    (hlast : (FileSystem.segments p).getLast? = some name)
    (hname : FileSystem.isName name = true) (s : Session) :
    s.files.stat? p = none ∧
        ((dropUnfinished p : StateM Session Unit).run s).2.files = s.files ∨
      (∃ e, s.files.stat? p = some e) ∧
        ((dropUnfinished p : StateM Session Unit).run s).2.files =
          s.files.erase (s.files.place p) := by
  rw [dropUnfinished, Session.run_bind, Session.run_stat]
  cases hfound : s.files.stat? p with
  | none => exact .inl ⟨rfl, rfl⟩
  | some e =>
    obtain ⟨l, hlook⟩ := FileSystem.stat?_eq_some_iff.mp hfound
    obtain rfl := FileSystem.locate_eq_place (FileSystem.look_eq_ok hlook).1
    refine .inr ⟨⟨e, rfl⟩, ?_⟩
    cases e with
    | directory =>
      have hremove : (Storage.removeTree p : StateM Session _).run s =
          ((s.files.removeTree p).1, { s with files := (s.files.removeTree p).2 }) := rfl
      rw [FileSystem.removeTree_of_look hlook hlast hname] at hremove
      dsimp only [Option.map_some, Entry.kind]
      rw [Session.run_bind, hremove]
      rfl
    | file content =>
      have hremove : (Storage.removeFile p : StateM Session _).run s =
          (.ok (), { s with files := s.files.erase (s.files.place p) }) :=
        Session.run_change_ok (FileSystem.removeFile_of_look hlook)
      dsimp only [Option.map_some, Entry.kind]
      rw [Session.run_bind, hremove]
      rfl

/-! ### Building below a place -/

/-- One file system came from another by building at and below a location and by making directories
on some ways. What is built stays a directory. -/
structure Builds (root : Location) (ways : Location → Prop) (before after : FileSystem) : Prop
    extends Changes (root <+: ·) ways before after where
  keeps : before.at? root = some .directory → after.at? root = some .directory

namespace Builds

variable {root : Location} {ways : Location → Prop} {a b c : FileSystem}

theorem rfl : Builds root ways a a :=
  ⟨.rfl, id⟩

theorem trans (h : Builds root ways a b) (h' : Builds root ways b c) : Builds root ways a c :=
  ⟨h.toChanges.trans h'.toChanges, fun hroot => h'.keeps (h.keeps hroot)⟩

/-- Directories that were only made below the root or on the ways build. -/
theorem of_changes {ways' : Location → Prop} (h : Changes (fun _ => False) ways' a b)
    (hways : ∀ l, ways' l → root <+: l ∨ ways l) : Builds root ways a b := by
  refine ⟨h.mono (fun _ => False.elim) fun l hl hl' => (hways l hl').resolve_left hl, ?_⟩
  intro hroot
  rcases h.atMostMade not_false with hsame | ⟨-, hmade⟩
  · rw [hsame, hroot]
  · exact hmade

theorem of_writeFile {p : Path} {content : Content} (h : a.writeFile p content = .ok b)
    (hroot : root <+: a.place p) : Builds root ways a b := by
  obtain ⟨-, -, hdirectory, rfl⟩ := FileSystem.writeFile_ok h
  have hne : a.place p ≠ [] := by
    intro hnil
    simp [hnil] at hdirectory
  refine ⟨⟨FileSystem.workingDirectory_put _ _ _, fun l hl => .inl ?_⟩, fun hat => ?_⟩
  · rw [FileSystem.at?_put _ hne, if_neg]
    rintro rfl
    exact hl hroot
  · rw [FileSystem.at?_put _ hne, if_neg, hat]
    rintro rfl
    exact hdirectory hat

end Builds

theorem run_attempt_writeText_builds {root : Location} {ways : Location → Prop} {p : Path}
    (explain : DiskError → PackagingError) (text : String) (s : Session)
    (hroot : root <+: s.files.place p) :
    Builds root ways s.files
      ((attempt explain (Storage.writeText p text) : Packing Unit).run.run s).2.files := by
  have hchange : (Storage.writeText p text : StateM Session _) =
      Session.change (·.writeFile p (.text text)) := rfl
  rw [hchange]
  rcases run_attempt_change explain (·.writeFile p (.text text)) s with
    ⟨files, hwrite, hrun⟩ | ⟨cause, -, hrun⟩
  · rw [hrun]
    exact .of_writeFile hwrite hroot
  · rw [hrun]
    exact .rfl

section Below

variable {output unfinished parent : Path} {name : String}

/-- The directory of a file is made before the file is written. -/
theorem placeFile_eq (root : Path) (file : ProjectFile) :
    (placeFile root file : Packing Unit) =
      (match (root.join file.path).parent? with
        | none => pure ()
        | some parent =>
          attempt (.creatingDirectory parent) (Storage.createDirectories parent)) >>= fun _ =>
        attempt (.writingFile (root.join file.path))
          (Storage.writeText (root.join file.path) file.content) := by
  delta placeFile
  dsimp only
  cases (root.join file.path).parent? <;> rfl

/-- A file is written below the place beside an output, whether or not that succeeds. -/
theorem placeFile_builds (h : Beside output unfinished parent name) {file : ProjectFile}
    (hfile : file.path.isInner = true) (s : Session) :
    Builds (s.files.place unfinished) (s.files.OnWay parent) s.files
      ((placeFile unfinished file : Packing Unit).run.run s).2.files := by
  have hwrite : ∀ s' : Session, s'.files.workingDirectory = s.files.workingDirectory →
      Builds (s.files.place unfinished) (s.files.OnWay parent) s'.files
        ((attempt (.writingFile (unfinished.join file.path))
          (Storage.writeText (unfinished.join file.path) file.content) :
            Packing Unit).run.run s').2.files := by
    intro s' hdir
    refine run_attempt_writeText_builds _ _ s' ?_
    rw [FileSystem.place_congr hdir, FileSystem.place_join hfile]
    exact List.prefix_append _ _
  rw [placeFile_eq]
  cases hparent : (unfinished.join file.path).parent? with
  | none => exact hwrite s rfl
  | some above =>
    dsimp only
    have hmake : Builds (s.files.place unfinished) (s.files.OnWay parent) s.files
        ((attempt (.creatingDirectory above) (Storage.createDirectories above) :
          Packing Unit).run.run s).2.files := by
      rw [run_attempt]
      exact .of_changes (Storage.createDirectories_changes _ above s) fun l hl =>
        h.onWay_join hfile (FileSystem.onWay_of_parent? hparent hl)
    rw [Session.runExcept_bind]
    split
    · next s' hrun =>
      rw [hrun] at hmake
      exact hmake.trans (hwrite s' hmake.workingDirectory)
    · next e s' hrun =>
      rw [hrun] at hmake
      exact hmake

/-- The files of a project are written below the place beside an output, as far as they are. -/
theorem forM_placeFile_builds (h : Beside output unfinished parent name)
    {files : List ProjectFile} (hfiles : ∀ f ∈ files, f.path.isInner = true) (s : Session) :
    Builds (s.files.place unfinished) (s.files.OnWay parent) s.files
      ((files.forM (placeFile unfinished) : Packing Unit).run.run s).2.files := by
  induction files generalizing s with
  | nil => exact .rfl
  | cons file files ih =>
    have hfile := placeFile_builds h (hfiles file List.mem_cons_self) s
    have hcons : ((file :: files).forM (placeFile unfinished) : Packing Unit) =
        placeFile unfinished file >>= fun _ => files.forM (placeFile unfinished) := rfl
    rw [hcons, Session.runExcept_bind]
    split
    · next s' hrun =>
      rw [hrun] at hfile
      have hdir := hfile.workingDirectory
      have hrest := ih (fun f hf => hfiles f (List.mem_cons_of_mem _ hf)) s'
      rw [FileSystem.place_congr hdir, FileSystem.onWay_congr hdir] at hrest
      exact hfile.trans hrest
    · next e s' hrun =>
      rw [hrun] at hfile
      exact hfile

end Below

end Scaffold

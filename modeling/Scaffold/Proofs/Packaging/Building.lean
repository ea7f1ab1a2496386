import Scaffold.Proofs.Packaging.Stages

/-!
# Building an output

An output is built at the place beside it: a directory with the files of a project in it, or one
file with an archive. What was built is there if the building went through. If it failed, then
either what there is of it is found, so that it can be dropped, or nothing was built at all.

## Main results

* `fillDirectory_buildsBeside`: the building of a directory.
* `writeArchive_buildsBeside`: the building of an archive.
-/

namespace Scaffold

section

variable {output unfinished parent : Path} {name : String} {project : Project}
  {s s' : Session} {e : PackagingError}

/-! ### Directories -/

theorem placeFile_isBuilding {root : Path} {file : ProjectFile}
    (h : (placeFile root file : Packing Unit).run.run s = (.error e, s')) :
    e.isBuilding = true := by
  rw [placeFile_eq] at h
  rcases Session.bind_error h with hmake | ⟨-, s₁, -, hwrite⟩
  · split at hmake
    · cases hmake
    · obtain ⟨cause, rfl, -⟩ := run_attempt_error hmake
      rfl
  · obtain ⟨cause, rfl, -⟩ := run_attempt_error hwrite
    rfl

theorem forM_placeFile_isBuilding {root : Path} {files : List ProjectFile}
    (h : (files.forM (placeFile root) : Packing Unit).run.run s = (.error e, s')) :
    e.isBuilding = true := by
  induction files generalizing s with
  | nil => cases h
  | cons file files ih =>
    rcases Session.bind_error (x := placeFile root file) h with h | ⟨-, s₁, -, h⟩
    · exact placeFile_isBuilding h
    · exact ih h

theorem fillDirectory_isBuilding {root : Path}
    (h : (fillDirectory root project : Packing Unit).run.run s = (.error e, s')) :
    e.isBuilding = true := by
  rcases Session.bind_error h with hmake | ⟨-, s₁, -, hfill⟩
  · obtain ⟨cause, rfl, -⟩ := run_attempt_error hmake
    rfl
  · exact forM_placeFile_isBuilding hfill

theorem createDirectories_unfinished_changes (h : Beside output unfinished parent name)
    (s : Session) :
    Builds (s.files.place unfinished) (s.files.OnWay parent) s.files
      ((Storage.createDirectories unfinished : StateM Session _).run s).2.files :=
  .of_changes (Storage.createDirectories_changes _ unfinished s) fun _ hl =>
    (h.onWay_unfinished hl).symm.imp_left fun heq : _ = s.files.place unfinished =>
      heq ▸ List.prefix_rfl

theorem fillDirectory_builds (h : Beside output unfinished parent name)
    (hproject : ∀ f ∈ project.files, f.path.isInner = true) (s : Session) :
    Builds (s.files.place unfinished) (s.files.OnWay parent) s.files
      ((fillDirectory unfinished project : Packing Unit).run.run s).2.files := by
  have hmake := createDirectories_unfinished_changes h s
  rw [fillDirectory, Session.runExcept_bind, run_attempt]
  rcases hrun : (Storage.createDirectories unfinished : StateM Session _).run s with ⟨cause | a, s₁⟩
  · rw [hrun] at hmake
    exact hmake
  · rw [hrun] at hmake
    have hfiles := forM_placeFile_builds h hproject s₁
    rw [FileSystem.place_congr hmake.workingDirectory,
      FileSystem.onWay_congr hmake.workingDirectory] at hfiles
    exact hmake.trans hfiles

/-- A directory that was built is at the place beside the output. -/
theorem fillDirectory_ok (h : Beside output unfinished parent name)
    (hproject : ∀ f ∈ project.files, f.path.isInner = true)
    (hrun : (fillDirectory unfinished project : Packing Unit).run.run s = (.ok (), s')) :
    s'.files.at? (s.files.place unfinished) = some .directory := by
  obtain ⟨⟨⟩, s₁, hmake, hfill⟩ := Session.bind_ok hrun
  have hmake := run_attempt_ok hmake
  have hdir := (createDirectories_unfinished_changes h s).workingDirectory
  rw [hmake] at hdir
  have hfound := Storage.createDirectories_ok h.text_ne hmake
  have hbuilt := forM_placeFile_builds h hproject s₁
  rw [hfill] at hbuilt
  rw [← FileSystem.place_congr hdir]
  exact hbuilt.keeps (FileSystem.look_eq_ok hfound).2

/-- The place beside an output is still found after something was built there and directories were
made in front of it. -/
theorem stat?_of_builds (h : Beside output unfinished parent name) {before after : FileSystem}
    (hbuilds : Builds (before.place unfinished) (before.OnWay parent) before after)
    (hways : ¬ before.OnWay parent (before.place unfinished))
    (hfound : before.look unfinished = .ok (before.place unfinished, .directory)) :
    after.stat? unfinished = some .directory := by
  obtain ⟨hlocate, hat⟩ := FileSystem.look_eq_ok hfound
  refine FileSystem.stat?_eq_some_iff.mpr ⟨before.place unfinished, ?_⟩
  refine FileSystem.look_directory ?_ (hbuilds.keeps hat)
  refine FileSystem.locate_of_atMostMade hbuilds.workingDirectory hlocate ?_
  intro front segment back hfront
  -- the path does not lead through the place itself, where files may have been written
  have hway := h.onWay_of_front before hfront
  exact hbuilds.atMostMade fun hbelow => hways (h.onWay_parent_unfinished hway hbelow)

/-- A directory is found where it was built, however far the building went behind that, unless the
path leads through the place itself. -/
theorem stat?_of_forM_placeFile (h : Beside output unfinished parent name)
    {files : List ProjectFile} (hfiles : ∀ f ∈ files, f.path.isInner = true) {s₁ : Session}
    {result : Except PackagingError Unit}
    (hmake : (attempt (.creatingDirectory unfinished) (Storage.createDirectories unfinished) :
      Packing Unit).run.run s = (.ok (), s₁))
    (hfill : (files.forM (placeFile unfinished) : Packing Unit).run.run s₁ = (result, s'))
    (hways : ¬ s.files.OnWay parent (s.files.place unfinished)) :
    s'.files.stat? unfinished = some .directory := by
  have hmake := run_attempt_ok hmake
  have hdir := (createDirectories_unfinished_changes h s).workingDirectory
  rw [hmake] at hdir
  have hfound := Storage.createDirectories_ok h.text_ne hmake
  have hbuilt := forM_placeFile_builds h hfiles s₁
  rw [hfill] at hbuilt
  exact stat?_of_builds h hbuilt
    (by rwa [FileSystem.place_congr hdir, FileSystem.onWay_congr hdir]) hfound

/-- A directory that was built is found. -/
theorem fillDirectory_found (h : Beside output unfinished parent name)
    (hproject : ∀ f ∈ project.files, f.path.isInner = true)
    (hrun : (fillDirectory unfinished project : Packing Unit).run.run s = (.ok (), s'))
    (hways : ¬ s.files.OnWay parent (s.files.place unfinished)) :
    s'.files.stat? unfinished = some .directory := by
  obtain ⟨⟨⟩, s₁, hmake, hfill⟩ := Session.bind_ok hrun
  exact stat?_of_forM_placeFile h hproject hmake hfill hways

/-- If the building of a directory fails and nothing is found of it, then nothing was built. -/
theorem fillDirectory_error (h : Beside output unfinished parent name)
    (hproject : ∀ f ∈ project.files, f.path.isInner = true)
    (hrun : (fillDirectory unfinished project : Packing Unit).run.run s = (.error e, s'))
    (hways : ¬ s.files.OnWay parent (s.files.place unfinished))
    (hnone : s'.files.stat? unfinished = none) :
    LeftClean (s.files.place unfinished) s.files s'.files := by
  rcases Session.bind_error hrun with hmake | ⟨⟨⟩, s₁, hmake, hfill⟩
  · obtain ⟨cause, -, hmake⟩ := run_attempt_error hmake
    have hchanges : Changes (fun _ => False) _ s.files s'.files :=
      Storage.createDirectories_error hmake
    refine .inr fun l hl => (hchanges.outside l not_false).resolve_right ?_
    rintro ⟨⟨q, hq, hway⟩, -⟩
    exact hways (h.onWay_parent_unfinished (h.onWay_parent?_unfinished hq hway) hl)
  · have hstat := stat?_of_forM_placeFile h hproject hmake hfill hways
    rw [hnone] at hstat
    cases hstat

theorem fillDirectory_buildsBeside (h : Beside output unfinished parent name)
    (hproject : ∀ f ∈ project.files, f.path.isInner = true) (s : Session) :
    BuildsBeside unfinished parent (fillDirectory unfinished project) s where
  changes result s' hrun := by
    have hbuilds := (fillDirectory_builds h hproject s).toChanges
    rwa [hrun] at hbuilds
  built s' hrun := by
    rw [fillDirectory_ok h hproject hrun]
    rfl
  found s' hrun hways := by
    rw [fillDirectory_found h hproject hrun hways]
    rfl
  isBuilding e s' hrun := fillDirectory_isBuilding hrun
  leftClean e s' hrun hways hnone := fillDirectory_error h hproject hrun hways hnone

/-! ### Archives -/

/-- An archive is written to the place beside the output, or nothing is changed. -/
theorem writeArchive_cases (unfinished : Path) (entries : List ArchiveEntry) (s : Session) :
    (∃ files, s.files.writeFile unfinished (.archive entries) = .ok files ∧
      (attempt (.creatingArchive unfinished) (Storage.writeArchive unfinished entries) :
        Packing Unit).run.run s = (.ok (), { s with files := files })) ∨
    ∃ cause, (attempt (.creatingArchive unfinished) (Storage.writeArchive unfinished entries) :
      Packing Unit).run.run s = (.error (.creatingArchive unfinished cause), s) := by
  have hchange : (Storage.writeArchive unfinished entries : StateM Session _) =
      Session.change (·.writeFile unfinished (.archive entries)) := rfl
  rw [hchange]
  rcases run_attempt_change (.creatingArchive unfinished)
    (·.writeFile unfinished (.archive entries)) s with hwritten | ⟨cause, -, hrun⟩
  · exact .inl hwritten
  · exact .inr ⟨cause, hrun⟩

theorem writeArchive_builds (unfinished : Path) (entries : List ArchiveEntry)
    (ways : Location → Prop) (s : Session) :
    Builds (s.files.place unfinished) ways s.files
      ((attempt (.creatingArchive unfinished) (Storage.writeArchive unfinished entries) :
        Packing Unit).run.run s).2.files := by
  rcases writeArchive_cases unfinished entries s with ⟨files, hwrite, hrun⟩ | ⟨cause, hrun⟩
  · rw [hrun]
    exact .of_writeFile hwrite List.prefix_rfl
  · rw [hrun]
    exact .rfl

/-- An archive that was built is at the place beside the output. -/
theorem writeArchive_ok (h : Beside output unfinished parent name) {entries : List ArchiveEntry}
    (hrun : (attempt (.creatingArchive unfinished) (Storage.writeArchive unfinished entries) :
      Packing Unit).run.run s = (.ok (), s')) :
    s'.files.at? (s.files.place unfinished) = some (.file (.archive entries)) := by
  rcases writeArchive_cases unfinished entries s with ⟨files, hwrite, hrun'⟩ | ⟨cause, hrun'⟩
  · cases hrun'.symm.trans hrun
    obtain ⟨-, -, -, rfl⟩ := FileSystem.writeFile_ok hwrite
    exact (FileSystem.at?_put _ (h.place_unfinished_ne_nil _) _ _).trans (if_pos rfl)
  · cases hrun'.symm.trans hrun

/-- An archive that was built is found. -/
theorem writeArchive_found (h : Beside output unfinished parent name)
    {entries : List ArchiveEntry}
    (hrun : (attempt (.creatingArchive unfinished) (Storage.writeArchive unfinished entries) :
      Packing Unit).run.run s = (.ok (), s'))
    (hways : ¬ s.files.OnWay parent (s.files.place unfinished)) :
    s'.files.stat? unfinished = some (.file (.archive entries)) := by
  have hat := writeArchive_ok h hrun
  rcases writeArchive_cases unfinished entries s with ⟨files, hwrite, hrun'⟩ | ⟨cause, hrun'⟩
  · cases hrun'.symm.trans hrun
    obtain ⟨hlocate, hslash, -, rfl⟩ := FileSystem.writeFile_ok hwrite
    have hdir := FileSystem.workingDirectory_put s.files (s.files.place unfinished)
      (.file (.archive entries))
    have hlocate' := FileSystem.locate_of_atMostMade hdir hlocate
      fun front segment back hfront => .inl <| by
        rw [FileSystem.at?_put _ (h.place_unfinished_ne_nil _), if_neg]
        exact fun heq => hways (heq ▸ h.onWay_of_front s.files hfront)
    exact FileSystem.stat?_eq_some_iff.mpr
      ⟨s.files.place unfinished, FileSystem.look_of_locate hlocate' hat hslash⟩
  · cases hrun'.symm.trans hrun

/-- An archive that cannot be written is not begun. -/
theorem writeArchive_error {entries : List ArchiveEntry}
    (hrun : (attempt (.creatingArchive unfinished) (Storage.writeArchive unfinished entries) :
      Packing Unit).run.run s = (.error e, s')) :
    (∃ cause, e = .creatingArchive unfinished cause) ∧ s' = s := by
  rcases writeArchive_cases unfinished entries s with ⟨files, -, hrun'⟩ | ⟨cause, hrun'⟩
  · cases hrun'.symm.trans hrun
  · cases hrun'.symm.trans hrun
    exact ⟨⟨cause, rfl⟩, rfl⟩

theorem writeArchive_buildsBeside (h : Beside output unfinished parent name)
    (entries : List ArchiveEntry) (s : Session) :
    BuildsBeside unfinished parent
      (attempt (.creatingArchive unfinished) (Storage.writeArchive unfinished entries)) s where
  changes result s' hrun := by
    have hbuilds := (writeArchive_builds unfinished entries (s.files.OnWay parent) s).toChanges
    rwa [hrun] at hbuilds
  built s' hrun := by
    rw [writeArchive_ok h hrun]
    rfl
  found s' hrun hways := by
    rw [writeArchive_found h hrun hways]
    rfl
  isBuilding e s' hrun := by
    obtain ⟨⟨cause, rfl⟩, -⟩ := writeArchive_error hrun
    rfl
  leftClean e s' hrun _ _ := by
    obtain ⟨-, rfl⟩ := writeArchive_error hrun
    exact .inr fun _ _ => rfl

end

end Scaffold

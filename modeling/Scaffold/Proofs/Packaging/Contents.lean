import Scaffold.Proofs.Packaging.Building

/-!
# The contents of a project on disk

A project says what belongs at every location below its root: the files, the directories that lead
to them, and nothing else. Writing the files one after the other puts that there, because a file
that is written neither takes the place of a directory nor that of another file. Whatever else is
below the root stays as it was.

## Main definitions

* `Project.entryAt?`: what belongs at a location of a project.
* `Placed`: what writing one file does.

## Main results

* `placeFile_placed`: a file is written with the directories that lead to it.
* `forM_placeFile_holds`: what is written stays while the other files are written.
* `fillDirectory_contents`: a directory that was filled holds the project.
-/

namespace Scaffold

/-! ### Ways inside a directory -/

namespace FileSystem

variable {fs : FileSystem} {l l' m : Location} {p q : Path}

/-- What one goes through without going up is a directory. -/
theorem at?_of_foldlM_enter {way : List String} (hup : ".." ∉ way)
    (h : way.foldlM fs.enter l = .ok l') (hm : l <+: m) (hm' : m <+: l') (hne : m ≠ l') :
    fs.at? m = some .directory := by
  induction way generalizing l with
  | nil =>
    cases h
    exact absurd (hm'.eq_of_length_le hm.length_le) hne
  | cons segment way ih =>
    rw [List.mem_cons, not_or] at hup
    rw [List.foldlM_cons] at h
    cases hnext : fs.enter l segment with
    | error e =>
      rw [hnext] at h
      cases h
    | ok next =>
      rw [hnext] at h
      have hstep := enter_eq_step hnext
      by_cases hdot : segment = "."
      · subst hdot
        exact ih hup.2 h (by rwa [hstep])
      · have hname : isName segment = true := by simp [isName, hdot, Ne.symm hup.1]
        rw [step_name _ hname] at hstep
        by_cases hstart : l = m
        · rw [← hstart]
          exact (enter_name_ok hname hnext).1
        · refine ih hup.2 h ?_
          have hl' : next <+: l' := by
            rw [foldlM_enter_eq h]
            exact prefix_foldl_step hup.2 next
          rcases List.prefix_or_prefix_of_prefix hl' hm' with hbelow | habove
          · exact hbelow
          · rw [hstep, List.prefix_concat_iff] at habove
            rcases habove with heq | habove
            · exact hstep ▸ heq ▸ List.prefix_rfl
            · exact absurd (hm.eq_of_length_le habove.length_le) hstart

/-- What leads from a directory to a path inside it is a directory. -/
theorem at?_of_locate_join (hq : q.isInner = true) (h : fs.locate (p.join q) = .ok l')
    (hm : fs.place p <+: m) (hm' : m <+: fs.place p ++ q.location)
    (hne : m ≠ fs.place p ++ q.location) : fs.at? m = some .directory := by
  obtain ⟨hrelative, hup⟩ := Path.not_mem_segments_of_isInner hq
  have hfold := locate_eq_ok h
  rw [locate_eq_place h, place_join hq] at hfold
  rw [segments_join hrelative, start_congr rfl (isAbsolute_join hrelative),
    List.foldlM_append] at hfold
  cases hfront : (segments p).foldlM fs.enter (fs.start p) with
  | error e =>
    rw [hfront] at hfold
    cases hfold
  | ok next =>
    rw [hfront] at hfold
    have hnext : next = fs.place p := foldlM_enter_eq hfront
    subst hnext
    exact at?_of_foldlM_enter hup hfold hm hm' hne

end FileSystem

/-! ### What belongs where -/

/-- What belongs at a location of a project. -/
def Project.entryAt? (t : Project) (l : Location) : Option Entry :=
  match t.files.find? fun f => f.path.location = l with
  | some f => some (.file (.text f.content))
  | none =>
    if l = [] ∨ ∃ f ∈ t.files, l <+: f.path.location then some .directory else none

namespace Project

variable {t : Project} {l : Location} {e : Entry}

theorem entryAt?_cases (h : t.entryAt? l = some e) :
    (∃ f ∈ t.files, f.path.location = l ∧ e = .file (.text f.content)) ∨
      l = [] ∧ e = .directory ∨
      ∃ f ∈ t.files, l <+: f.path.location ∧ l ≠ f.path.location ∧ e = .directory := by
  rw [entryAt?] at h
  split at h
  · next f hfind =>
    have hlocation := List.find?_some hfind
    exact .inl ⟨f, List.mem_of_find?_eq_some hfind, by simpa using hlocation,
      (Option.some.inj h).symm⟩
  · next hfind =>
    split_ifs at h with hdirectory
    obtain rfl := Option.some.inj h
    rcases hdirectory with hroot | ⟨f, hf, hle⟩
    · exact .inr (.inl ⟨hroot, rfl⟩)
    · refine .inr (.inr ⟨f, hf, hle, fun heq => ?_, rfl⟩)
      have hother := List.find?_eq_none.mp hfind f hf
      simp [heq] at hother

theorem entryAt?_isSome_of_prefix {f : ProjectFile} (hf : f ∈ t.files)
    (hl : l <+: f.path.location) : (t.entryAt? l).isSome := by
  rw [entryAt?]
  split
  · rfl
  · rw [if_pos (.inr ⟨f, hf, hl⟩)]
    rfl

theorem entryAt?_nil_isSome (t : Project) : (t.entryAt? []).isSome := by
  rw [entryAt?]
  split
  · rfl
  · rw [if_pos (.inl rfl)]
    rfl

end Project

/-! ### One file -/

/-- A file was written below a root: it has its content, the directories that lead to it are there,
and nothing was lost for its sake but what was at its location, which was no directory. -/
structure Placed (root : Location) (file : ProjectFile) (ways : Location → Prop)
    (before after : FileSystem) : Prop extends
    Changes (fun l => root <+: l ∧ l <+: root ++ file.path.location) ways before after where
  content : after.at? (root ++ file.path.location) = some (.file (.text file.content))
  above : ∀ l, root <+: l → l <+: root ++ file.path.location →
    l ≠ root ++ file.path.location → after.at? l = some .directory
  free : before.at? (root ++ file.path.location) ≠ some .directory
  elsewhere : ∀ l, l ≠ root ++ file.path.location → before.AtMostMade after l

section

variable {output unfinished parent : Path} {name : String} {s s' : Session}

theorem run_attempt_writeText_ok {explain : DiskError → PackagingError} {p : Path} {text : String}
    (hrun : (attempt explain (Storage.writeText p text) : Packing Unit).run.run s = (.ok (), s')) :
    s.files.writeFile p (.text text) = .ok s'.files := by
  have hchange : (Storage.writeText p text : StateM Session _) =
      Session.change (·.writeFile p (.text text)) := rfl
  rw [hchange] at hrun
  rcases run_attempt_change explain (·.writeFile p (.text text)) s with
    ⟨files, hwrite, hrun'⟩ | ⟨cause, -, hrun'⟩
  · cases hrun'.symm.trans hrun
    exact hwrite
  · cases hrun'.symm.trans hrun

/-- Before a file is written nothing but directories on the way to it is made. -/
theorem placeFile_ok {root : Path} {file : ProjectFile}
    (hrun : (placeFile root file : Packing Unit).run.run s = (.ok (), s')) :
    ∃ files, Changes (fun _ => False) (s.files.OnWay (root.join file.path)) s.files files ∧
      files.writeFile (root.join file.path) (.text file.content) = .ok s'.files := by
  rw [placeFile_eq] at hrun
  obtain ⟨⟨⟩, s₁, hmake, hwrite⟩ := Session.bind_ok hrun
  refine ⟨s₁.files, ?_, run_attempt_writeText_ok hwrite⟩
  cases hparent : (root.join file.path).parent? with
  | none =>
    rw [hparent] at hmake
    cases hmake
    exact .rfl
  | some above =>
    rw [hparent] at hmake
    have hmade := Storage.createDirectories_changes (fun _ => False) above s
    rw [run_attempt_ok hmake] at hmade
    exact hmade.mono (fun _ => id) fun _ _ => FileSystem.onWay_of_parent? hparent

/-- A file is written below the place beside an output with the directories that lead to it. -/
theorem placeFile_placed (h : Beside output unfinished parent name) {file : ProjectFile}
    (hfile : file.path.isInner = true)
    (hrun : (placeFile unfinished file : Packing Unit).run.run s = (.ok (), s')) :
    Placed (s.files.place unfinished) file (s.files.OnWay parent) s.files s'.files := by
  obtain ⟨files, hmade, hwrite⟩ := placeFile_ok hrun
  obtain ⟨hlocate, -, hfree, hfiles⟩ := FileSystem.writeFile_ok hwrite
  have hroot : files.place unfinished = s.files.place unfinished :=
    FileSystem.place_congr hmade.workingDirectory unfinished
  have hplace : files.place (unfinished.join file.path) =
      s.files.place unfinished ++ file.path.location := by
    rw [FileSystem.place_join hfile, hroot]
  have hne : s.files.place unfinished ++ file.path.location ≠ [] := by
    simp [h.place_unfinished_ne_nil]
  rw [hplace] at hfree hfiles
  have hput : ∀ l, s'.files.at? l =
      if l = s.files.place unfinished ++ file.path.location then
        some (.file (.text file.content)) else files.at? l := by
    intro l
    rw [hfiles]
    exact files.at?_put hne _ l
  have helsewhere : ∀ l, l ≠ s.files.place unfinished ++ file.path.location →
      s'.files.at? l = files.at? l := fun l hl => (hput l).trans (if_neg hl)
  have hdir : s'.files.workingDirectory = s.files.workingDirectory := by
    rw [hfiles, FileSystem.workingDirectory_put, hmade.workingDirectory]
  refine ⟨⟨hdir, fun l hl => ?_⟩, ?_, fun l habove hbelow hl => ?_, fun hat => ?_, fun l hl => ?_⟩
  · have hother : l ≠ s.files.place unfinished ++ file.path.location := by
      rintro rfl
      exact hl ⟨List.prefix_append _ _, List.prefix_rfl⟩
    rw [helsewhere l hother]
    refine (hmade.outside l not_false).imp_right fun ⟨hway, hchange⟩ => ⟨?_, hchange⟩
    rcases FileSystem.onWay_join hfile hway with hway | hinside
    · refine (h.onWay_unfinished hway).resolve_right fun heq => hl ?_
      exact ⟨heq ▸ List.prefix_rfl, heq ▸ List.prefix_append _ _⟩
    · exact absurd hinside hl
  · rw [hput, if_pos rfl]
  · rw [helsewhere l hl]
    exact FileSystem.at?_of_locate_join hfile hlocate (hroot ▸ habove) (hroot ▸ hbelow) (hroot ▸ hl)
  · -- a directory stays one while others are made, and no file is written in its place
    rcases hmade.atMostMade (l := s.files.place unfinished ++ file.path.location) not_false with
      hsame | ⟨hnone, -⟩
    · exact hfree (hsame.trans hat)
    · cases hnone.symm.trans hat
  · rw [FileSystem.AtMostMade, helsewhere l hl]
    exact hmade.atMostMade not_false

/-! ### All files -/

/-- Some files are below a root, with the directories that lead to them. -/
def Holds (root : Location) (files : List ProjectFile) (fs : FileSystem) : Prop :=
  ∀ f ∈ files, fs.at? (root ++ f.path.location) = some (.file (.text f.content)) ∧
    ∀ l, root <+: l → l <+: root ++ f.path.location → l ≠ root ++ f.path.location →
      fs.at? l = some .directory

/-- What is there stays while a file is written elsewhere; and no file is written in the place of a
directory. -/
theorem Placed.keeps {root l : Location} {file : ProjectFile} {ways : Location → Prop}
    {a b : FileSystem} {e : Entry} (h : Placed root file ways a b) (hat : a.at? l = some e)
    (hother : e = .directory ∨ l ≠ root ++ file.path.location) : b.at? l = some e := by
  have hne : l ≠ root ++ file.path.location := by
    rcases hother with rfl | hne
    · rintro rfl
      exact h.free hat
    · exact hne
  rcases h.elsewhere l hne with hsame | ⟨hnone, -⟩
  · rw [hsame, hat]
  · cases hnone.symm.trans hat

/-- What is written stays while another file is written elsewhere. -/
theorem Placed.holds {root : Location} {files : List ProjectFile} {file : ProjectFile}
    {ways : Location → Prop} {a b : FileSystem} (h : Placed root file ways a b)
    (hfiles : Holds root files a) (hnew : file.path.location ∉ files.map (·.path.location)) :
    Holds root (files ++ [file]) b := by
  intro f hf
  rcases List.mem_append.mp hf with hf | hf
  · obtain ⟨hcontent, habove⟩ := hfiles f hf
    refine ⟨h.keeps hcontent (.inr ?_), fun l hroot hle hne =>
      h.keeps (habove l hroot hle hne) (.inl rfl)⟩
    rw [Ne, List.append_cancel_left_eq]
    exact fun heq => hnew (heq ▸ List.mem_map_of_mem hf)
  · obtain rfl := List.mem_singleton.mp hf
    exact ⟨h.content, h.above⟩

/-- The files of a project are all there when they were written one after the other. -/
theorem forM_placeFile_holds (h : Beside output unfinished parent name)
    (written : List ProjectFile) {files : List ProjectFile}
    (hfiles : ∀ f ∈ files, f.path.isInner = true)
    (hdistinct : ((written ++ files).map (·.path.location)).Nodup)
    (hwritten : Holds (s.files.place unfinished) written s.files)
    (hrun : (files.forM (placeFile unfinished) : Packing Unit).run.run s = (.ok (), s')) :
    Holds (s.files.place unfinished) (written ++ files) s'.files ∧
      Changes (fun l => ∃ f ∈ files, s.files.place unfinished <+: l ∧
          l <+: s.files.place unfinished ++ f.path.location)
        (s.files.OnWay parent) s.files s'.files := by
  induction files generalizing written s with
  | nil =>
    cases hrun
    exact ⟨by simpa using hwritten, .rfl⟩
  | cons file files ih =>
    obtain ⟨⟨⟩, s₁, hfirst, hrest⟩ := Session.bind_ok (x := placeFile unfinished file) hrun
    have hplaced := placeFile_placed h (hfiles file List.mem_cons_self) hfirst
    have hdir := hplaced.workingDirectory
    have hnew : file.path.location ∉ written.map (·.path.location) := by
      intro hmem
      rw [List.map_append, List.map_cons] at hdistinct
      exact (List.nodup_append.mp hdistinct).2.2 _ hmem _ List.mem_cons_self rfl
    have hstep := hplaced.holds hwritten hnew
    rw [← FileSystem.place_congr hdir] at hstep
    obtain ⟨hall, hchanges⟩ := ih (written ++ [file])
      (fun f hf => hfiles f (List.mem_cons_of_mem _ hf)) (by simpa using hdistinct) hstep hrest
    rw [FileSystem.place_congr hdir] at hall hchanges
    rw [FileSystem.onWay_congr hdir] at hchanges
    refine ⟨by simpa using hall, ?_⟩
    refine (hplaced.toChanges.mono (fun l hl => ?_) fun _ _ => id).trans
      (hchanges.mono (fun l hl => ?_) fun _ _ => id)
    · exact ⟨file, List.mem_cons_self, hl⟩
    · obtain ⟨f, hf, hl⟩ := hl
      exact ⟨f, List.mem_cons_of_mem _ hf, hl⟩

/-- A directory that was filled holds what belongs to the project; and elsewhere below its root, as
outside of it, nothing is changed but that directories are made on the way there. -/
theorem fillDirectory_contents (h : Beside output unfinished parent name) {project : Project}
    (hproject : ∀ f ∈ project.files, f.path.isInner = true)
    (hdistinct : (project.files.map (·.path.location)).Nodup)
    (hrun : (fillDirectory unfinished project : Packing Unit).run.run s = (.ok (), s')) :
    (∀ l e, project.entryAt? l = some e →
        s'.files.at? (s.files.place unfinished ++ l) = some e) ∧
      Changes (fun l => ∃ rest, l = s.files.place unfinished ++ rest ∧
          (project.entryAt? rest).isSome)
        (s.files.OnWay parent) s.files s'.files := by
  have hdirectory := fillDirectory_ok h hproject hrun
  obtain ⟨⟨⟩, s₁, hmake, hfill⟩ := Session.bind_ok hrun
  have hmade := Storage.createDirectories_changes (fun _ => False) unfinished s
  rw [run_attempt_ok hmake] at hmade
  have hdir := hmade.workingDirectory
  obtain ⟨hholds, hchanges⟩ := forM_placeFile_holds h [] hproject
    (by simpa using hdistinct) (by simp [Holds]) hfill
  rw [FileSystem.place_congr hdir] at hholds hchanges
  rw [FileSystem.onWay_congr hdir] at hchanges
  constructor
  · intro l e hentry
    rcases project.entryAt?_cases hentry with ⟨f, hf, rfl, rfl⟩ | ⟨rfl, rfl⟩ |
      ⟨f, hf, hle, hne, rfl⟩
    · exact (hholds f (by simpa using hf)).1
    · rwa [List.append_nil]
    · refine (hholds f (by simpa using hf)).2 _ (List.prefix_append _ _) ?_ ?_
      · rwa [List.prefix_append_right_inj]
      · rwa [Ne, List.append_cancel_left_eq]
  · refine (hmade.mono (fun _ => False.elim) fun l hl hway => ?_).trans
      (hchanges.mono (fun l hl => ?_) fun _ _ => id)
    · refine (h.onWay_unfinished hway).resolve_right fun heq => hl ?_
      exact ⟨[], by rw [heq, List.append_nil], project.entryAt?_nil_isSome⟩
    · obtain ⟨f, hf, ⟨rest, rfl⟩, hbelow⟩ := hl
      rw [List.prefix_append_right_inj] at hbelow
      exact ⟨rest, rfl, project.entryAt?_isSome_of_prefix hf hbelow⟩

end

end Scaffold

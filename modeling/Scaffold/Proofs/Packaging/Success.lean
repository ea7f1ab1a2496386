import Scaffold.Proofs.Disk.Trees
import Scaffold.Proofs.Packaging.Contents
import Scaffold.Proofs.Packaging.Failure

/-!
# Packaging that goes through

When a call goes through, what was built beside the output stands in its place, nothing is beside it
any more, and everywhere else nothing is changed but that directories were made on the way to the
output. For a directory that means that the output holds the project; and it holds nothing else as
long as the path to it does not go up.

A path that goes up may lead through a directory that is not there. Then what is at the place beside
the output is not found, so that it is not removed before the new output is built over it; and the
directories that are made so that the path can be followed may lie inside the new output.

## Main definitions

* `Replaced`: everything at and below one location was moved to another.
* `Packed`: what a call that goes through leaves.
* `Leftover`: what may be at the output although it does not belong to the project.
* `DirectoryRun`: the stages of a call that writes a directory and goes through.

## Main results

* `replaceOutput_replaced`: what the last stage does when it goes through.
* `DirectoryRun.packed`, `packArchive_ok`: what a call that goes through leaves.
* `pack_directory_exact`: when the output holds the project and nothing else.
-/

namespace Scaffold

/-! ### The last stage -/

namespace FileSystem

variable {fs fs' : FileSystem} {p q : Path}

/-- What is moved to another place takes that place, whatever was there. -/
theorem rename_eq_ok (h : fs.rename p q = .ok fs') (hne : fs.place p ≠ fs.place q) :
    fs' = fs.move (fs.place p) (fs.place q) := by
  rw [rename] at h
  split at h
  · cases h
  · cases h
  · next origin entry goal hlook hlocate =>
    obtain rfl := locate_eq_place (look_eq_ok hlook).1
    obtain rfl := locate_eq_place hlocate
    by_cases hnames : ((lastName? p).isNone || (lastName? q).isNone) = true
    · rw [if_pos hnames] at h
      cases h
    by_cases hinside : (fs.place p).isPrefixOf (fs.place q) = true
    · rw [if_neg hnames, if_neg hne, if_pos hinside] at h
      cases h
    rw [if_neg hnames, if_neg hne, if_neg hinside] at h
    split at h
    · exact (Except.ok.inj h).symm
    · cases h
    · split_ifs at h
      exact (Except.ok.inj h).symm
    · cases h
    · split_ifs at h
      exact (Except.ok.inj h).symm

end FileSystem

/-- Everything at and below one location was moved to another, in place of what was there. -/
structure Replaced (source target : Location) (before after : FileSystem) : Prop where
  target_eq : ∀ l, after.at? (target ++ l) = before.at? (source ++ l)
  source_eq : ∀ l, source <+: l → after.at? l = none
  elsewhere : ∀ l, ¬ source <+: l → ¬ target <+: l → after.at? l = before.at? l

section

variable {output unfinished parent : Path} {name : String} {s s' : Session}

theorem Beside.apart (h : Beside output unfinished parent name) (fs : FileSystem) :
    FileSystem.Apart (fs.place unfinished) (fs.place output) :=
  ⟨h.not_unfinished_prefix fs, h.not_output_prefix fs⟩

theorem run_attempt_rename_ok {explain : DiskError → PackagingError} {p q : Path}
    (hrun : (attempt explain (Storage.rename p q) : Packing Unit).run.run s = (.ok (), s')) :
    s.files.rename p q = .ok s'.files := by
  have hchange : (Storage.rename p q : StateM Session _) = Session.change (·.rename p q) := rfl
  rw [hchange] at hrun
  rcases run_attempt_change explain (·.rename p q) s with
    ⟨files, hrename, hrun'⟩ | ⟨cause, -, hrun'⟩
  · cases hrun'.symm.trans hrun
    exact hrename
  · cases hrun'.symm.trans hrun

/-- An old output that was removed is gone, and nothing else is touched. -/
theorem replaceOutput_ok {explain : DiskError → PackagingError}
    {remove : Path → StateM Session (Except DiskError Unit)}
    (hremove : Changes (s.files.place output <+: ·) (fun _ => False) s.files
      ((remove output).run s).2.files)
    (hrun : (replaceOutput explain remove unfinished output).run.run s = (.ok (), s')) :
    ∃ files, Changes (s.files.place output <+: ·) (fun _ => False) s.files files ∧
      files.rename unfinished output = .ok s'.files := by
  rw [replaceOutput, Session.runExcept_bind, run_isThere] at hrun
  dsimp only at hrun
  split_ifs at hrun
  · obtain ⟨⟨⟩, s₁, hremoved, hmoved⟩ := Session.bind_ok hrun
    rw [run_attempt_ok hremoved] at hremove
    exact ⟨s₁.files, hremove, run_attempt_rename_ok hmoved⟩
  · exact ⟨s.files, .rfl, run_attempt_rename_ok hrun⟩

/-- What was built beside an output takes its place. -/
theorem replaceOutput_replaced (h : Beside output unfinished parent name)
    {explain : DiskError → PackagingError}
    {remove : Path → StateM Session (Except DiskError Unit)}
    (hremove : Changes (s.files.place output <+: ·) (fun _ => False) s.files
      ((remove output).run s).2.files)
    (hrun : (replaceOutput explain remove unfinished output).run.run s = (.ok (), s')) :
    Replaced (s.files.place unfinished) (s.files.place output) s.files s'.files := by
  obtain ⟨files, hchanges, hrename⟩ := replaceOutput_ok hremove hrun
  have hapart := h.apart s.files
  have hmove : s'.files = files.move (s.files.place unfinished) (s.files.place output) := by
    rw [FileSystem.rename_eq_ok hrename, FileSystem.place_congr hchanges.workingDirectory,
      FileSystem.place_congr hchanges.workingDirectory]
    exact fun heq => h.not_unfinished_prefix files (heq ▸ List.prefix_rfl)
  refine ⟨fun l => ?_, fun l hl => ?_, fun l hsource htarget => ?_⟩
  · rw [hmove, FileSystem.at?_move_target hapart]
    exact hchanges.at?_eq (hapart.not_prefix (List.prefix_append _ _))
  · rw [hmove, FileSystem.at?_move_source hapart hl]
  · rw [hmove, FileSystem.at?_move_of_not_prefix hsource htarget,
      hchanges.at?_eq htarget]

/-- What is at the place beside an output is not found, or it is removed. -/
theorem clearUnfinished_ok_cases (h : Beside output unfinished parent name)
    (hrun : (clearUnfinished unfinished).run.run s = (.ok (), s')) :
    s.files.stat? unfinished = none ∧ s' = s ∨
      s.files.stat? unfinished ≠ none ∧
        s'.files = s.files.erase (s.files.place unfinished) := by
  rw [clearUnfinished, Session.runExcept_bind, run_isThere] at hrun
  dsimp only at hrun
  split_ifs at hrun with hthere
  · refine .inr ⟨by simpa [Option.isSome_iff_ne_none] using hthere, ?_⟩
    obtain ⟨e, hstat⟩ := Option.isSome_iff_exists.mp hthere
    obtain ⟨l, hlook⟩ := FileSystem.stat?_eq_some_iff.mp hstat
    obtain rfl := FileSystem.locate_eq_place (FileSystem.look_eq_ok hlook).1
    have hrun' := run_attempt_ok hrun
    have hremove : (Storage.removeTree unfinished : StateM Session _).run s =
        ((s.files.removeTree unfinished).1,
          { s with files := (s.files.removeTree unfinished).2 }) := rfl
    cases e with
    | directory =>
      rw [FileSystem.removeTree_of_look hlook h.getLast?_segments
        (isName_unfinishedName name)] at hremove
      cases hremove.symm.trans hrun'
      rfl
    | file content =>
      have hrefused : s.files.removeTree unfinished = (.error .notDirectory, s.files) := by
        rw [FileSystem.removeTree, hlook]
      rw [hrefused] at hremove
      cases hremove.symm.trans hrun'
  · cases hrun
    exact .inl ⟨by simpa using hthere, rfl⟩

end

/-! ### Around the output -/

/-- Nothing is beside an output any more, and elsewhere only directories were made in front of
it. -/
structure Delivered (output : Path) (before after : FileSystem) : Prop where
  nothing_beside : ∀ unfinished, unfinishedPath? output = some unfinished →
    ∀ l, before.place unfinished <+: l → after.at? l = none
  confined : Confined output before after

/-- What is built beside an output and moved there is delivered. -/
theorem Delivered.of_replaced {output unfinished parent : Path} {name : String}
    (hunfinished : unfinishedPath? output = some unfinished)
    (h : Beside output unfinished parent name) {before built after : FileSystem}
    (hchanges : Changes (before.place unfinished <+: ·) (before.OnWay parent) before built)
    (hreplaced : Replaced (before.place unfinished) (before.place output) built after) :
    Delivered output before after := by
  constructor
  · intro u hu l hl
    obtain rfl : unfinished = u := Option.some.inj (hunfinished.symm.trans hu)
    exact hreplaced.source_eq l hl
  · intro l houtput hbeside
    have hunder := hbeside unfinished hunfinished
    rw [hreplaced.elsewhere l hunder houtput, h.inFrontOf_iff]
    exact hchanges.outside l hunder

/-! ### Directories -/

/-- What a call leaves that goes through: the output holds the project, and otherwise at most what
is given. -/
structure Packed (project : Project) (output : Path) (extra : Location → Entry → Prop)
    (before after : FileSystem) : Prop extends Delivered output before after where
  contents : ∀ l e, project.entryAt? l = some e → after.at? (before.place output ++ l) = some e
  nothing_else : ∀ l e, project.entryAt? l = none →
    after.at? (before.place output ++ l) = some e → extra l e

/-- What may be at the output although it does not belong to the project: it was at the place beside
the output and was not found there, or it is a directory that was made there because the path to the
output leads through it. -/
def Leftover (output : Path) (before : FileSystem) (l : Location) (e : Entry) : Prop :=
  ∃ unfinished, unfinishedPath? output = some unfinished ∧
    (before.stat? unfinished = none ∧ before.at? (before.place unfinished ++ l) = some e ∨
      before.InFrontOf output (before.place unfinished ++ l) ∧ e = .directory)

/-- Whatever was at the place beside the output and was not found there is at the output. -/
def KeepsUnfound (project : Project) (output : Path) (before after : FileSystem) : Prop :=
  ∀ unfinished, unfinishedPath? output = some unfinished → before.stat? unfinished = none →
    ∀ l e, project.entryAt? l = none → before.at? (before.place unfinished ++ l) = some e →
      after.at? (before.place output ++ l) = some e

/-- A directory that was filled can be reached. -/
theorem fillDirectory_locate {output unfinished parent : Path} {name : String}
    (h : Beside output unfinished parent name) {project : Project} {s s' : Session}
    (hrun : (fillDirectory unfinished project : Packing Unit).run.run s = (.ok (), s')) :
    ∃ files : FileSystem, files.workingDirectory = s.files.workingDirectory ∧
      ∃ l, files.locate unfinished = .ok l := by
  obtain ⟨⟨⟩, s₁, hmake, -⟩ := Session.bind_ok hrun
  have hmade := Storage.createDirectories_changes (fun _ => False) unfinished s
  rw [run_attempt_ok hmake] at hmade
  have hlook := Storage.createDirectories_ok h.text_ne (run_attempt_ok hmake)
  exact ⟨s₁.files, hmade.workingDirectory, _, (FileSystem.look_eq_ok hlook).1⟩

/-- A call that writes a directory and goes through, with the sessions in which the place beside the
output was cleared and in which the new output was complete. -/
structure DirectoryRun (project : Project) (output unfinished parent : Path) (name : String)
    (s cleared built s' : Session) : Prop where
  unfinished_eq : unfinishedPath? output = some unfinished
  beside : Beside output unfinished parent name
  clear : (clearUnfinished unfinished).run.run s = (.ok (), cleared)
  fill : (fillDirectory unfinished project : Packing Unit).run.run cleared = (.ok (), built)
  changes : Changes (s.files.place unfinished <+: ·) (s.files.OnWay parent) s.files built.files
  renamed : ∃ files, Changes (s.files.place output <+: ·) (fun _ => False) built.files files ∧
    files.rename unfinished output = .ok s'.files
  replaced : Replaced (s.files.place unfinished) (s.files.place output) built.files s'.files

theorem packDirectory_ok {overwrite : Bool} {project : Project} {output : Path} {s s' : Session}
    (hproject : ∀ f ∈ project.files, f.path.isInner = true)
    (hrun : (packDirectory overwrite project output : Packing Unit).run.run s = (.ok (), s')) :
    ∃ unfinished parent name cleared built,
      DirectoryRun project output unfinished parent name s cleared built s' := by
  rw [packDirectory_eq] at hrun
  obtain ⟨⟨⟩, s₁, hguard, hrun₁⟩ := Session.bind_ok hrun
  obtain rfl := guardOutput_ok hguard
  obtain ⟨unfinished, s₂, hname, hrun₂⟩ := Session.bind_ok hrun₁
  obtain ⟨rfl, hunfinished⟩ := unfinishedPath_ok hname
  obtain ⟨parent, name, h⟩ := beside_unfinishedPath? hunfinished
  obtain ⟨⟨⟩, cleared, hclear, hrun₃⟩ := Session.bind_ok hrun₂
  obtain ⟨⟨⟩, built, hdrop, hreplace⟩ := Session.bind_ok hrun₃
  have hfill := orDrop_ok hdrop
  have hcleared := (clearUnfinished_ok h (s₂.files.OnWay parent) hclear).toChanges
  have hbuilds := (fillDirectory_builds h hproject cleared).toChanges
  rw [hfill, FileSystem.place_congr hcleared.workingDirectory,
    FileSystem.onWay_congr hcleared.workingDirectory] at hbuilds
  have hchanges := hcleared.trans hbuilds
  have hrenamed := replaceOutput_ok (run_removeTree_changes output built) hreplace
  have hreplaced := replaceOutput_replaced h (run_removeTree_changes output built) hreplace
  rw [FileSystem.place_congr hchanges.workingDirectory] at hrenamed
  rw [FileSystem.place_congr hchanges.workingDirectory,
    FileSystem.place_congr hchanges.workingDirectory] at hreplaced
  exact ⟨unfinished, parent, name, cleared, built, hunfinished, h, hclear, hfill, hchanges,
    hrenamed, hreplaced⟩

namespace DirectoryRun

variable {project : Project} {output unfinished parent : Path} {name : String}
  {s cleared built s' : Session} {l : Location} {e : Entry}

theorem delivered (r : DirectoryRun project output unfinished parent name s cleared built s') :
    Delivered output s.files s'.files :=
  .of_replaced r.unfinished_eq r.beside r.changes r.replaced

theorem workingDirectory_cleared
    (r : DirectoryRun project output unfinished parent name s cleared built s') :
    cleared.files.workingDirectory = s.files.workingDirectory :=
  (clearUnfinished_ok r.beside (fun _ => False) r.clear).workingDirectory

/-- The new output is complete before it takes its place. -/
theorem filled (r : DirectoryRun project output unfinished parent name s cleared built s')
    (hproject : ∀ f ∈ project.files, f.path.isInner = true)
    (hdistinct : (project.files.map (·.path.location)).Nodup) :
    (∀ l e, project.entryAt? l = some e → s'.files.at? (s.files.place output ++ l) = some e) ∧
      ∀ l, project.entryAt? l = none →
        s'.files.at? (s.files.place output ++ l) =
            cleared.files.at? (s.files.place unfinished ++ l) ∨
          s.files.OnWay parent (s.files.place unfinished ++ l) ∧
            cleared.files.at? (s.files.place unfinished ++ l) = none ∧
            s'.files.at? (s.files.place output ++ l) = some .directory := by
  have hdir := r.workingDirectory_cleared
  obtain ⟨hcontents, hchanges⟩ := fillDirectory_contents r.beside hproject hdistinct r.fill
  rw [FileSystem.place_congr hdir] at hcontents hchanges
  rw [FileSystem.onWay_congr hdir] at hchanges
  constructor
  · intro l e hentry
    rw [r.replaced.target_eq]
    exact hcontents l e hentry
  · intro l hentry
    rw [r.replaced.target_eq]
    refine hchanges.outside _ ?_
    rintro ⟨rest, heq, hsome⟩
    rw [← List.append_cancel_left heq, hentry] at hsome
    cases hsome

/-- What is cleared is gone, and what is not found is not cleared. -/
theorem at?_cleared (r : DirectoryRun project output unfinished parent name s cleared built s')
    (l : Location) :
    s.files.stat? unfinished = none ∧
        cleared.files.at? (s.files.place unfinished ++ l) =
          s.files.at? (s.files.place unfinished ++ l) ∨
      s.files.stat? unfinished ≠ none ∧
        cleared.files.at? (s.files.place unfinished ++ l) = none := by
  rcases clearUnfinished_ok_cases r.beside r.clear with ⟨hstat, rfl⟩ | ⟨hstat, herase⟩
  · exact .inl ⟨hstat, rfl⟩
  · have hne : s.files.place unfinished ++ l ≠ [] := by
      simp [r.beside.place_unfinished_ne_nil]
    rw [herase, FileSystem.at?_erase _ _ hne, if_pos (List.prefix_append _ _)]
    exact .inr ⟨hstat, rfl⟩

theorem leftover (r : DirectoryRun project output unfinished parent name s cleared built s')
    (hproject : ∀ f ∈ project.files, f.path.isInner = true)
    (hdistinct : (project.files.map (·.path.location)).Nodup)
    (hentry : project.entryAt? l = none)
    (hat : s'.files.at? (s.files.place output ++ l) = some e) : Leftover output s.files l e := by
  refine ⟨unfinished, r.unfinished_eq, ?_⟩
  rcases (r.filled hproject hdistinct).2 l hentry with hsame | ⟨hway, -, hmade⟩
  · left
    rcases r.at?_cleared l with ⟨hstat, hcleared⟩ | ⟨-, hcleared⟩
    · rw [← hcleared, ← hsame]
      exact ⟨hstat, hat⟩
    · rw [hsame, hcleared] at hat
      cases hat
  · right
    exact ⟨r.beside.inFrontOf_iff.mpr hway, Option.some.inj (hat.symm.trans hmade)⟩

theorem keepsUnfound (r : DirectoryRun project output unfinished parent name s cleared built s')
    (hproject : ∀ f ∈ project.files, f.path.isInner = true)
    (hdistinct : (project.files.map (·.path.location)).Nodup) :
    KeepsUnfound project output s.files s'.files := by
  intro u hu hstat l e hentry hat
  obtain rfl : unfinished = u := Option.some.inj (r.unfinished_eq.symm.trans hu)
  have hcleared : cleared.files.at? (s.files.place unfinished ++ l) = some e := by
    rcases r.at?_cleared l with ⟨-, hsame⟩ | ⟨hfound, -⟩
    · rw [hsame, hat]
    · exact absurd hstat hfound
  rcases (r.filled hproject hdistinct).2 l hentry with hsame | ⟨-, hnone, -⟩
  · rw [hsame, hcleared]
  · cases hnone.symm.trans hcleared

/-- Nothing is left over if the path to the output does not go up. -/
theorem not_leftover (r : DirectoryRun project output unfinished parent name s cleared built s')
    (htree : s.files.IsTree) (hup : ".." ∉ FileSystem.segments output) (hl : l ≠ []) :
    ¬ Leftover output s.files l e := by
  rintro ⟨u, hu, ⟨hstat, hat⟩ | ⟨hway, -⟩⟩
  · obtain rfl : unfinished = u := Option.some.inj (r.unfinished_eq.symm.trans hu)
    have hne : s.files.place unfinished ≠ s.files.place unfinished ++ l := by simp [hl]
    have hdirectory := htree.at?_of_prefix hat (List.prefix_append _ _) hne
    obtain ⟨files, hdir, l', hlocate⟩ := fillDirectory_locate r.beside r.fill
    have hfound := htree.locate_of_locate (r.beside.not_up_unfinished hup) hdirectory
      (hdir.trans r.workingDirectory_cleared) hlocate
    have hlook := FileSystem.look_directory hfound hdirectory
    rw [FileSystem.stat?_eq_some_iff.mpr ⟨_, hlook⟩] at hstat
    cases hstat
  · obtain rfl : unfinished = u := Option.some.inj (r.unfinished_eq.symm.trans hu)
    exact r.beside.not_unfinished_prefix_onWay hup (r.beside.inFrontOf_iff.mp hway)
      (List.prefix_append _ _)

theorem packed (r : DirectoryRun project output unfinished parent name s cleared built s')
    (hproject : ∀ f ∈ project.files, f.path.isInner = true)
    (hdistinct : (project.files.map (·.path.location)).Nodup) :
    Packed project output (Leftover output s.files) s.files s'.files :=
  ⟨r.delivered, (r.filled hproject hdistinct).1, fun _ _ => r.leftover hproject hdistinct⟩

theorem packed_exact (r : DirectoryRun project output unfinished parent name s cleared built s')
    (hproject : ∀ f ∈ project.files, f.path.isInner = true)
    (hdistinct : (project.files.map (·.path.location)).Nodup) (htree : s.files.IsTree)
    (hup : ".." ∉ FileSystem.segments output) :
    Packed project output (fun _ _ => False) s.files s'.files := by
  refine { r.packed hproject hdistinct with nothing_else := fun l e hentry hat => ?_ }
  refine r.not_leftover htree hup ?_ (r.leftover hproject hdistinct hentry hat)
  rintro rfl
  have hsome := project.entryAt?_nil_isSome
  rw [hentry] at hsome
  cases hsome

end DirectoryRun

/-- What is at an output that was written as a directory. All of the project is there, nothing is
beside the output, and elsewhere at most directories were made in front of it. What else is at the
output is what was not found beside it, all of which is kept, or a directory that the path leads
through. If the path does not go up, then there is nothing else. -/
theorem pack_directory_exact {overwrite : Bool} {files : List ProjectFile} {project : Project}
    {output : Path} {s s' : Session} (hproject : Project.ofFiles files = .ok project)
    (hdistinct : (project.files.map (·.path.location)).Nodup)
    (hrun : (OutputForm.directory.pack overwrite project output).outcome s = (.ok (), s')) :
    Packed project output (Leftover output s.files) s.files s'.files ∧
      KeepsUnfound project output s.files s'.files ∧
      (s.files.IsTree → ".." ∉ FileSystem.segments output →
        Packed project output (fun _ _ => False) s.files s'.files) := by
  have hinner := Project.isInner_of_ofFiles hproject
  obtain ⟨unfinished, parent, name, cleared, built, r⟩ := packDirectory_ok hinner hrun
  exact ⟨r.packed hinner hdistinct, r.keepsUnfound hinner hdistinct,
    r.packed_exact hinner hdistinct⟩

/-- An old output, and what an earlier call left beside it. -/
def stale : Session :=
  .ofFiles
    ⟨[(["kept.txt"], .file (.text "k")),
      (["out"], .directory),
      (["out", "old.txt"], .file (.text "o")),
      ([".out.partial"], .directory),
      ([".out.partial", "stale.txt"], .file (.text "s"))], []⟩

/-- What is there when both were replaced. -/
def renewed : Session :=
  .ofFiles
    ⟨[(["kept.txt"], .file (.text "k")),
      (["out"], .directory),
      (["out", "a.txt"], .file (.text "a")),
      (["out", "b"], .directory),
      (["out", "b", "c.txt"], .file (.text "c"))], []⟩

theorem pack_directory_exact_stale :
    Project.ofFiles [⟨⟨"a.txt"⟩, "a"⟩, ⟨⟨"b/c.txt"⟩, "c"⟩] =
        .ok ⟨[⟨⟨"a.txt"⟩, "a"⟩, ⟨⟨"b/c.txt"⟩, "c"⟩]⟩ ∧
      ([⟨⟨"a.txt"⟩, "a"⟩, ⟨⟨"b/c.txt"⟩, "c"⟩].map fun f : ProjectFile => f.path.location).Nodup ∧
      (OutputForm.directory.pack true ⟨[⟨⟨"a.txt"⟩, "a"⟩, ⟨⟨"b/c.txt"⟩, "c"⟩]⟩ ⟨"out"⟩).outcome
        stale = (.ok (), renewed) ∧
      stale.files.IsTree ∧ ".." ∉ FileSystem.segments ⟨"out"⟩ ∧
      Packed ⟨[⟨⟨"a.txt"⟩, "a"⟩, ⟨⟨"b/c.txt"⟩, "c"⟩]⟩ ⟨"out"⟩ (fun _ _ => False)
        stale.files renewed.files := by
  have hproject : Project.ofFiles [⟨⟨"a.txt"⟩, "a"⟩, ⟨⟨"b/c.txt"⟩, "c"⟩] =
      .ok ⟨[⟨⟨"a.txt"⟩, "a"⟩, ⟨⟨"b/c.txt"⟩, "c"⟩]⟩ := by decide +kernel
  have hdistinct : ([⟨⟨"a.txt"⟩, "a"⟩, ⟨⟨"b/c.txt"⟩, "c"⟩].map
      fun f : ProjectFile => f.path.location).Nodup := by decide +kernel
  have hrun : (OutputForm.directory.pack true
      ⟨[⟨⟨"a.txt"⟩, "a"⟩, ⟨⟨"b/c.txt"⟩, "c"⟩]⟩ ⟨"out"⟩).outcome stale = (.ok (), renewed) := by
    decide +kernel
  have htree : stale.files.IsTree := by decide +kernel
  have hup : ".." ∉ FileSystem.segments ⟨"out"⟩ := by decide +kernel
  exact ⟨hproject, hdistinct, hrun, htree, hup,
    (pack_directory_exact hproject hdistinct hrun).2.2 htree hup⟩

/-- What an earlier call left beside an output that is not there. -/
def abandoned : Session :=
  .ofFiles
    ⟨[([".out.partial"], .directory),
      ([".out.partial", "stale.txt"], .file (.text "s"))], []⟩

/-- What is at the output when the way to it led through a directory that was not there. -/
def adopted : Session :=
  .ofFiles
    ⟨[(["out"], .directory),
      (["out", "stale.txt"], .file (.text "s")),
      (["x"], .directory),
      (["out", "a.txt"], .file (.text "a"))], []⟩

/-- A call can go through and leave at the output what an earlier call left beside it. -/
theorem exists_pack_directory_inexact :
    ∃ s', (OutputForm.directory.pack false ⟨[⟨⟨"a.txt"⟩, "a"⟩]⟩ ⟨"x/../out"⟩).outcome abandoned =
        (.ok (), s') ∧
      abandoned.files.IsTree ∧
      ¬ Packed ⟨[⟨⟨"a.txt"⟩, "a"⟩]⟩ ⟨"x/../out"⟩ (fun _ _ => False) abandoned.files s'.files := by
  refine ⟨adopted, by decide +kernel, by decide +kernel, fun hpacked => ?_⟩
  have hplace : abandoned.files.place ⟨"x/../out"⟩ ++ ["stale.txt"] = ["out", "stale.txt"] := by
    decide +kernel
  have hentry : Project.entryAt? ⟨[⟨⟨"a.txt"⟩, "a"⟩]⟩ ["stale.txt"] = none := by decide +kernel
  have hat : adopted.files.at? ["out", "stale.txt"] = some (.file (.text "s")) := by
    decide +kernel
  exact hpacked.nothing_else ["stale.txt"] _ hentry (hplace ▸ hat)

/-! ### Archives -/

/-- What a call leaves that writes an archive and goes through. -/
theorem packArchive_ok {overwrite : Bool} {root : String} {project : Project} {output : Path}
    {s s' : Session}
    (hrun : (packArchive overwrite root project output : Packing Unit).run.run s = (.ok (), s')) :
    s'.files.at? (s.files.place output) = some (.file (.archive (project.toEntries root))) ∧
      Delivered output s.files s'.files := by
  rw [packArchive_eq] at hrun
  obtain ⟨⟨⟩, s₁, hguard, hrun₁⟩ := Session.bind_ok hrun
  obtain rfl := guardOutput_ok hguard
  obtain ⟨⟨⟩, s₂, hmake, hrun₂⟩ := Session.bind_ok hrun₁
  have hmade := makeParent_changes output s₁
  rw [hmake] at hmade
  obtain ⟨unfinished, s₃, hname, hrun₃⟩ := Session.bind_ok hrun₂
  obtain ⟨rfl, hunfinished⟩ := unfinishedPath_ok hname
  obtain ⟨parent, name, h⟩ := beside_unfinishedPath? hunfinished
  obtain ⟨⟨⟩, s₄, hdrop, hreplace⟩ := Session.bind_ok hrun₃
  have hwrite := orDrop_ok hdrop
  have hdir₃ := hmade.workingDirectory
  have hwritten := (writeArchive_builds unfinished (project.toEntries root)
    (s₃.files.OnWay parent) s₃).toChanges
  rw [hwrite] at hwritten
  have hat := writeArchive_ok h hwrite
  have hdir₄ := hwritten.workingDirectory.trans hdir₃
  have hreplaced := replaceOutput_replaced h (run_removeFile_changes output s₄) hreplace
  rw [FileSystem.place_congr hdir₃, FileSystem.onWay_congr hdir₃] at hwritten
  rw [FileSystem.place_congr hdir₃] at hat
  rw [FileSystem.place_congr hdir₄, FileSystem.place_congr hdir₄] at hreplaced
  have hbuilt : Changes (s₁.files.place unfinished <+: ·) (s₁.files.OnWay parent) s₁.files
      s₄.files :=
    (hmade.mono (fun _ => False.elim) fun _ _ => h.inFrontOf_iff.mp).trans hwritten
  refine ⟨?_, .of_replaced hunfinished h hbuilt hreplaced⟩
  have htarget := hreplaced.target_eq []
  rwa [List.append_nil, List.append_nil, hat] at htarget

end Scaffold

import Scaffold.Proofs.Packaging.Plain

/-!
# Failures of packaging

What a call that failed has done to the files. If it failed before it began to put the new output
into the place of the old one, then nothing is left of it but directories in front of the output. If
it failed later, then what it built is still at the place beside the output.

So a failure is harmless, which is to say that the output is as it was and that nothing new is
beside it, exactly if it comes early and if no directory had to be made inside the output or at the
place beside it for the sake of the path. That happens only on paths that go up again.

## Main definitions

* `PackagingError.isLate`: an error that is met in replacing the output.
* `Harmless`, `Detours`: what a failure should leave alone, and how a path can lead through it.

## Main results

* `packDirectory_failure`, `packArchive_failure`: what a failure leaves.
* `failure_harmless_iff`: which failures are harmless.
-/

namespace Scaffold

/-- Whether an error is met in replacing the output, when the new one has been built. -/
def PackagingError.isLate : PackagingError → Bool
  | .removingDirectory _ _ | .removingArchive _ _ | .moving _ _ _ => true
  | _ => false

/-- The output and everything below it is as it was, and so is what is at the place beside it unless
nothing is there. -/
structure Harmless (output : Path) (before after : FileSystem) : Prop where
  output_kept : ∀ l, before.place output <+: l → after.at? l = before.at? l
  nothing_left : ∀ unfinished, unfinishedPath? output = some unfinished →
    LeftClean (before.place unfinished) before after

/-- The path to the output leads through the output itself, where a directory had to be made, or
through the place beside it, which was not left clean. -/
def Detours (output : Path) (before after : FileSystem) : Prop :=
  (∃ l, before.InFrontOf output l ∧ before.place output <+: l ∧
    before.at? l = none ∧ after.at? l = some .directory) ∨
  ∃ unfinished, unfinishedPath? output = some unfinished ∧
    before.InFrontOf output (before.place unfinished) ∧
    ¬ LeftClean (before.place unfinished) before after

/-- What a failure that comes early does to the files. -/
def FailsEarly (output : Path) (before after : FileSystem) : Prop :=
  match unfinishedPath? output with
  | none => Changes (fun _ => False) (before.InFrontOf output) before after
  | some unfinished =>
    Tidy (before.place unfinished) (before.InFrontOf output) before after

/-- The two forms of an output. -/
inductive OutputForm where
  | directory
  | archive (root : String)
  deriving DecidableEq, Repr

/-- A project is written in a form. -/
def OutputForm.pack (form : OutputForm) (overwrite : Bool) (project : Project) (output : Path) :
    Packing Unit :=
  match form with
  | .directory => packDirectory overwrite project output
  | .archive root => packArchive overwrite root project output

/-- Whether what is there can be replaced by an output of a form. -/
def OutputForm.replaces : OutputForm → Entry → Bool
  | .directory, .directory => true
  | .archive _, .file _ => true
  | _, _ => false

/-- A failure that comes late leaves what was built beside the output. On a plain path it comes only
if what was at the output cannot be replaced. -/
structure FailsLate (form : OutputForm) (output : Path) (before after : FileSystem) : Prop where
  confined : Confined output before after
  left : ∃ unfinished, unfinishedPath? output = some unfinished ∧
    (after.at? (before.place unfinished)).isSome
  blocked : output.IsPlain →
    ∃ entry, before.at? (before.place output) = some entry ∧ form.replaces entry = false

/-- What is known of a failure. -/
def FailureKnown (form : OutputForm) (output : Path) (e : PackagingError)
    (before after : FileSystem) : Prop :=
  e.isLate = false ∧ FailsEarly output before after ∨
    e.isLate = true ∧ FailsLate form output before after

/-- A failure that comes early does not touch the output either, except that directories were made
on the way to it. -/
theorem FailsEarly.outside {output : Path} {before after : FileSystem} {l : Location}
    (h : FailsEarly output before after)
    (hbeside : ∀ unfinished, unfinishedPath? output = some unfinished →
      ¬ before.place unfinished <+: l) :
    after.at? l = before.at? l ∨
      before.InFrontOf output l ∧ before.at? l = none ∧ after.at? l = some .directory := by
  rw [FailsEarly] at h
  split at h
  · exact h.outside l not_false
  · next unfinished hunfinished => exact h.outside l (hbeside unfinished hunfinished)

theorem FailsEarly.leftClean {output unfinished : Path} {before after : FileSystem}
    (h : FailsEarly output before after) (hunfinished : unfinishedPath? output = some unfinished)
    (hway : ¬ before.InFrontOf output (before.place unfinished)) :
    LeftClean (before.place unfinished) before after := by
  simp only [FailsEarly, hunfinished] at h
  exact h.leftClean hway

theorem FailsEarly.harmless_iff {output : Path} {before after : FileSystem}
    (h : FailsEarly output before after) :
    Harmless output before after ↔ ¬ Detours output before after := by
  constructor
  · rintro hharmless (⟨l, -, hl, hnone, hmade⟩ | ⟨unfinished, hunfinished, -, hleft⟩)
    · have hsame := hharmless.output_kept l hl
      rw [hnone, hmade] at hsame
      cases hsame
    · exact hleft (hharmless.nothing_left unfinished hunfinished)
  · intro hdetour
    refine ⟨fun l hl => ?_, fun unfinished hunfinished => ?_⟩
    · have hbeside : ∀ unfinished, unfinishedPath? output = some unfinished →
          ¬ before.place unfinished <+: l := by
        intro unfinished hunfinished
        obtain ⟨parent, name, hbeside⟩ := beside_unfinishedPath? hunfinished
        exact hbeside.not_prefix_of_output hl
      rcases h.outside hbeside with hsame | ⟨hway, hmade⟩
      · exact hsame
      · exact absurd (.inl ⟨l, hway, hl, hmade⟩) hdetour
    · by_contra hleft
      refine hdetour (.inr ⟨unfinished, hunfinished, ?_, hleft⟩)
      by_contra hway
      exact hleft (h.leftClean hunfinished hway)

/-- A failure that comes late is not harmless unless there was something beside the output. -/
theorem FailsLate.exists_left {form : OutputForm} {output : Path} {before after : FileSystem}
    (h : FailsLate form output before after) :
    ∃ unfinished, unfinishedPath? output = some unfinished ∧
      (after.at? (before.place unfinished)).isSome ∧
      (before.at? (before.place unfinished) = none → ¬ Harmless output before after) := by
  obtain ⟨unfinished, hunfinished, hleft⟩ := h.left
  refine ⟨unfinished, hunfinished, hleft, fun hbefore hharmless => ?_⟩
  rcases hharmless.nothing_left unfinished hunfinished with hnone | hsame
  · rw [hnone] at hleft
    cases hleft
  · rw [hsame _ List.prefix_rfl, hbefore] at hleft
    cases hleft

/-! ### The old output -/

namespace FileSystem

/-- Removing a directory changes nothing that is not at or below it. -/
theorem at?_removeTree (fs : FileSystem) {p : Path} {l : Location} (hl : ¬ fs.place p <+: l) :
    (fs.removeTree p).2.at? l = fs.at? l := by
  rw [removeTree]
  split
  · rfl
  · rfl
  · next l' hlook =>
    have hl' := locate_eq_place (look_eq_ok hlook).1
    subst hl'
    split
    · exact at?_clear fs hl
    · exact at?_clear fs hl
    · exact at?_clear fs hl
    · exact fs.at?_erase_of_not_prefix hl

theorem at?_removeFile {fs fs' : FileSystem} {p : Path} (h : fs.removeFile p = .ok fs')
    {l : Location} (hl : ¬ fs.place p <+: l) : fs'.at? l = fs.at? l := by
  rw [removeFile] at h
  split at h
  · cases h
  · cases h
  · next l' content hlook =>
    have hl' := locate_eq_place (look_eq_ok hlook).1
    subst hl'
    cases h
    exact fs.at?_erase_of_not_prefix hl

theorem workingDirectory_removeTree (fs : FileSystem) (p : Path) :
    (fs.removeTree p).2.workingDirectory = fs.workingDirectory := by
  rw [removeTree]
  split
  · rfl
  · rfl
  · split <;> rfl

theorem workingDirectory_removeFile {fs fs' : FileSystem} {p : Path}
    (h : fs.removeFile p = .ok fs') :
    fs'.workingDirectory = fs.workingDirectory := by
  rw [removeFile] at h
  split at h
  · cases h
  · cases h
  · cases h
    rfl

end FileSystem

/-- Removing a directory changes nothing but what is at and below it, whether or not it succeeds. -/
theorem run_removeTree_changes {ways : Location → Prop} (p : Path) (s : Session) :
    Changes (s.files.place p <+: ·) ways s.files
      ((Storage.removeTree p : StateM Session _).run s).2.files :=
  ⟨s.files.workingDirectory_removeTree p, fun _ hl => .inl (s.files.at?_removeTree hl)⟩

/-- Removing a file changes nothing but what is at and below it, whether or not it succeeds. -/
theorem run_removeFile_changes {ways : Location → Prop} (p : Path) (s : Session) :
    Changes (s.files.place p <+: ·) ways s.files
      ((Storage.removeFile p : StateM Session _).run s).2.files := by
  have hchange : (Storage.removeFile p : StateM Session _) =
      Session.change (·.removeFile p) := rfl
  rw [hchange]
  rcases Session.run_change_cases (·.removeFile p) s with
    ⟨files, hremove, hrun⟩ | ⟨cause, -, hrun⟩
  · rw [hrun]
    exact ⟨FileSystem.workingDirectory_removeFile hremove,
      fun _ hl => .inl (FileSystem.at?_removeFile hremove hl)⟩
  · rw [hrun]
    exact .rfl

/-! ### From the building on -/

/-- An old output is removed without touching anything else, and on a plain path it is removed if it
is of the form. -/
structure RemovesOutput (form : OutputForm) (output : Path)
    (remove : Path → StateM Session (Except DiskError Unit)) : Prop where
  changes : ∀ s : Session, Changes (s.files.place output <+: ·) (fun _ => False) s.files
    ((remove output).run s).2.files
  removed : output.IsPlain → ∀ (s : Session) (entry : Entry),
    s.files.look output = .ok (s.files.place output, entry) → form.replaces entry = true →
      (remove output).run s = (.ok (), { s with files := s.files.erase (s.files.place output) })

theorem removesOutput_directory (output : Path) :
    RemovesOutput .directory output (Storage.removeTree : Path → StateM Session _) where
  changes s := run_removeTree_changes output s
  removed hplain s entry hlook hreplaces := by
    cases entry with
    | file content => cases hreplaces
    | directory =>
      obtain ⟨name, hlast, hname⟩ := hplain.exists_last
      have hrun : (Storage.removeTree output : StateM Session _).run s =
          ((s.files.removeTree output).1, { s with files := (s.files.removeTree output).2 }) :=
        rfl
      rw [hrun, FileSystem.removeTree_of_look hlook hlast hname]

theorem removesOutput_archive (root : String) (output : Path) :
    RemovesOutput (.archive root) output (Storage.removeFile : Path → StateM Session _) where
  changes s := run_removeFile_changes output s
  removed hplain s entry hlook hreplaces := by
    cases entry with
    | directory => cases hreplaces
    | file content => exact Session.run_change_ok (FileSystem.removeFile_of_look hlook)

/-- The last stage, when it fails, leaves what was built, and on a plain path it fails only because
of what is at the output. -/
theorem failsLate_of_replace {form : OutputForm} {output unfinished parent : Path} {name : String}
    (hunfinished : unfinishedPath? output = some unfinished)
    (h : Beside output unfinished parent name) {explain : DiskError → PackagingError}
    {remove : Path → StateM Session (Except DiskError Unit)}
    (hremove : RemovesOutput form output remove) {before : FileSystem} {s s' : Session}
    {e : PackagingError}
    (hchanges : Changes (before.place unfinished <+: ·) (before.OnWay parent) before s.files)
    (hbuilt : (s.files.at? (before.place unfinished)).isSome)
    (hfound : ¬ before.OnWay parent (before.place unfinished) →
      (s.files.stat? unfinished).isSome)
    (hrun : (replaceOutput explain remove unfinished output).run.run s = (.error e, s')) :
    ((∃ cause, e = explain cause) ∨ ∃ cause, e = .moving unfinished output cause) ∧
      FailsLate form output before s'.files := by
  have hdir := hchanges.workingDirectory
  have hsame : ∀ l, ¬ before.place output <+: l → s'.files.at? l = s.files.at? l := by
    intro l hl
    rw [← FileSystem.place_congr hdir] at hl
    exact (replaceOutput_error hrun ((hremove.changes s).at?_eq hl)).2
  have hbeside := h.not_output_prefix before
  have hleft := hsame _ hbeside
  rw [← FileSystem.place_congr hdir output] at hbeside
  refine ⟨(replaceOutput_error hrun ((hremove.changes s).at?_eq hbeside)).1, fun l houtput hl => ?_,
    ⟨unfinished, hunfinished, by rwa [hleft]⟩, fun hplain => ?_⟩
  · rw [hsame l houtput, h.inFrontOf_iff]
    exact hchanges.outside l (hl unfinished hunfinished)
  have hways : ¬ before.OnWay parent (before.place unfinished) := fun hway =>
    h.not_unfinished_prefix_onWay hplain.not_up hway List.prefix_rfl
  obtain ⟨built, hstat⟩ := Option.isSome_iff_exists.mp (hfound hways)
  obtain ⟨l, hlook⟩ := FileSystem.stat?_eq_some_iff.mp hstat
  obtain rfl := FileSystem.locate_eq_place (FileSystem.look_eq_ok hlook).1
  obtain ⟨entry, hthere, hblocked⟩ := replaceOutput_plain h hplain hlook hrun
  refine ⟨entry, ?_, ?_⟩
  · have hat := (FileSystem.look_eq_ok hthere).2
    rw [FileSystem.place_congr hdir] at hat
    rw [← hat]
    refine ((hchanges.outside _ (h.not_unfinished_prefix before)).resolve_right ?_).symm
    exact fun hway => h.not_output_prefix_onWay hplain.not_up hway.1 List.prefix_rfl
  · rw [← Bool.not_eq_true]
    exact fun hreplaces => hblocked (hremove.removed hplain s entry hthere hreplaces)

theorem FailsEarly.rfl {output : Path} {a : FileSystem} : FailsEarly output a a := by
  rw [FailsEarly]
  split
  · exact .rfl
  · exact .rfl

theorem FailsEarly.of_changes {output : Path} {before after : FileSystem}
    (h : Changes (fun _ => False) (before.InFrontOf output) before after) :
    FailsEarly output before after := by
  rw [FailsEarly]
  split
  · exact h
  · next unfinished hunfinished =>
    obtain ⟨parent, name, hbeside⟩ := beside_unfinishedPath? hunfinished
    refine .of_changes h fun l hbelow hl => ?_
    rw [hbeside.inFrontOf_iff] at hl ⊢
    exact hbeside.onWay_parent_unfinished hl hbelow

theorem FailsEarly.of_tidy {output unfinished parent : Path} {name : String}
    (hunfinished : unfinishedPath? output = some unfinished)
    (h : Beside output unfinished parent name) {before after : FileSystem}
    (htidy : Tidy (before.place unfinished) (before.OnWay parent) before after) :
    FailsEarly output before after := by
  have hways : before.InFrontOf output = before.OnWay parent := by
    funext l
    exact propext h.inFrontOf_iff
  simp only [FailsEarly, hunfinished, hways]
  exact htidy

theorem PackagingError.not_isLate_of_isBuilding {e : PackagingError} (h : e.isBuilding = true) :
    e.isLate = false := by
  cases e <;> first | rfl | cases h

/-- When nothing but the place beside the output was changed before the building, it is known what a
failure from there on leaves. -/
theorem failureKnown_of_build {form : OutputForm} {output unfinished parent : Path}
    {name : String} (hunfinished : unfinishedPath? output = some unfinished)
    (h : Beside output unfinished parent name) {explain : DiskError → PackagingError}
    (hexplain : ∀ cause, (explain cause).isLate = true)
    {remove : Path → StateM Session (Except DiskError Unit)}
    (hremove : RemovesOutput form output remove) {build : Packing Unit} {before : FileSystem}
    {s s' : Session} {e : PackagingError}
    (hbefore : Tidy (before.place unfinished) (before.OnWay parent) before s.files)
    (hbuilds : BuildsBeside unfinished parent build s)
    (hrun : (orDrop unfinished build >>= fun _ =>
      replaceOutput explain remove unfinished output).run.run s = (.error e, s')) :
    FailureKnown form output e before s'.files := by
  have hplace := FileSystem.place_congr hbefore.workingDirectory unfinished
  have hways := FileSystem.onWay_congr hbefore.workingDirectory parent
  rcases Session.bind_error hrun with hdrop | ⟨⟨⟩, s₁, hdrop, hreplace⟩
  · obtain ⟨hbuilding, htidy⟩ := orDrop_error h hbuilds hdrop
    rw [hplace, hways] at htidy
    exact .inl ⟨PackagingError.not_isLate_of_isBuilding hbuilding,
      .of_tidy hunfinished h (hbefore.trans htidy)⟩
  · have hbuild := orDrop_ok hdrop
    have hchanges := hbuilds.changes _ _ hbuild
    have hbuilt := hbuilds.built _ hbuild
    have hfound := hbuilds.found _ hbuild
    rw [hplace] at hchanges hbuilt hfound
    rw [hways] at hchanges hfound
    obtain ⟨hcause, hlate⟩ := failsLate_of_replace hunfinished h hremove
      (hbefore.toChanges.trans hchanges) hbuilt hfound hreplace
    refine .inr ⟨?_, hlate⟩
    rcases hcause with ⟨cause, rfl⟩ | ⟨cause, rfl⟩
    · exact hexplain cause
    · rfl

/-! ### The two ways of packing -/

theorem packDirectory_failure {overwrite : Bool} {project : Project} {output : Path}
    {s s' : Session} {e : PackagingError}
    (hproject : ∀ f ∈ project.files, f.path.isInner = true)
    (hrun : (packDirectory overwrite project output : Packing Unit).run.run s = (.error e, s')) :
    FailureKnown .directory output e s.files s'.files := by
  rw [packDirectory_eq] at hrun
  rcases Session.bind_error hrun with hguard | ⟨⟨⟩, s₁, hguard, hrun₁⟩
  · obtain ⟨rfl, rfl⟩ := guardOutput_error hguard
    exact .inl ⟨rfl, .rfl⟩
  obtain rfl := guardOutput_ok hguard
  rcases Session.bind_error hrun₁ with hname | ⟨unfinished, s₂, hname, hrun₂⟩
  · obtain ⟨rfl, rfl, -⟩ := unfinishedPath_error hname
    exact .inl ⟨rfl, .rfl⟩
  obtain ⟨rfl, hunfinished⟩ := unfinishedPath_ok hname
  obtain ⟨parent, name, h⟩ := beside_unfinishedPath? hunfinished
  rcases Session.bind_error hrun₂ with hclear | ⟨⟨⟩, s₃, hclear, hrun₃⟩
  · obtain ⟨⟨cause, rfl⟩, rfl⟩ := clearUnfinished_error h hclear
    exact .inl ⟨rfl, .rfl⟩
  have hcleared := clearUnfinished_ok h (s₂.files.OnWay parent) hclear
  exact failureKnown_of_build hunfinished h (fun _ => rfl) (removesOutput_directory output)
    hcleared (fillDirectory_buildsBeside h hproject s₃) hrun₃

theorem packArchive_failure {overwrite : Bool} {root : String} {project : Project} {output : Path}
    {s s' : Session} {e : PackagingError}
    (hrun : (packArchive overwrite root project output : Packing Unit).run.run s =
      (.error e, s')) :
    FailureKnown (.archive root) output e s.files s'.files := by
  rw [packArchive_eq] at hrun
  rcases Session.bind_error hrun with hguard | ⟨⟨⟩, s₁, hguard, hrun₁⟩
  · obtain ⟨rfl, rfl⟩ := guardOutput_error hguard
    exact .inl ⟨rfl, .rfl⟩
  obtain rfl := guardOutput_ok hguard
  have hmade := makeParent_changes output s₁
  rcases Session.bind_error hrun₁ with hmake | ⟨⟨⟩, s₂, hmake, hrun₂⟩
  · obtain ⟨parent, cause, rfl⟩ := makeParent_error hmake
    rw [hmake] at hmade
    exact .inl ⟨rfl, .of_changes hmade⟩
  rw [hmake] at hmade
  rcases Session.bind_error hrun₂ with hname | ⟨unfinished, s₃, hname, hrun₃⟩
  · obtain ⟨rfl, rfl, hnone⟩ := unfinishedPath_error hname
    exact .inl ⟨rfl, .of_changes hmade⟩
  obtain ⟨rfl, hunfinished⟩ := unfinishedPath_ok hname
  obtain ⟨parent, name, h⟩ := beside_unfinishedPath? hunfinished
  have hbefore : Tidy (s₁.files.place unfinished) (s₁.files.OnWay parent) s₁.files s₃.files := by
    refine .of_changes (hmade.mono (fun _ => id) fun _ _ => h.inFrontOf_iff.mp) ?_
    intro l hbelow hway
    exact h.onWay_parent_unfinished hway hbelow
  exact failureKnown_of_build hunfinished h (fun _ => rfl) (removesOutput_archive root output)
    hbefore (writeArchive_buildsBeside h (project.toEntries root) s₃) hrun₃

/-! ### Which failures are harmless -/

/-- A file that is added lies inside the project, and the files before it stay. -/
theorem Project.isInner_of_add {t t' : Project} {path : Path} {content : String}
    (h : t.add path content = .ok t') (ht : ∀ f ∈ t.files, f.path.isInner = true) :
    ∀ f ∈ t'.files, f.path.isInner = true := by
  rw [Project.add] at h
  split_ifs at h with hinner
  cases h
  intro f hf
  rcases List.mem_append.mp hf with hf | hf
  · exact ht f hf
  · rw [List.mem_singleton.mp hf]
    simpa using hinner

theorem Project.isInner_of_foldlM_add {files : List ProjectFile} {t t' : Project}
    (h : files.foldlM (fun t f => t.add f.path f.content) t = .ok t')
    (ht : ∀ f ∈ t.files, f.path.isInner = true) : ∀ f ∈ t'.files, f.path.isInner = true := by
  induction files generalizing t with
  | nil =>
    cases h
    exact ht
  | cons file files ih =>
    rw [List.foldlM_cons] at h
    cases hadd : t.add file.path file.content with
    | error e =>
      rw [hadd] at h
      cases h
    | ok next =>
      rw [hadd] at h
      exact ih h (Project.isInner_of_add hadd ht)

/-- Every file of a project that was put together file by file lies inside it. -/
theorem Project.isInner_of_ofFiles {files : List ProjectFile} {project : Project}
    (h : Project.ofFiles files = .ok project) : ∀ f ∈ project.files, f.path.isInner = true :=
  Project.isInner_of_foldlM_add h (by simp [Project.empty])

/-- A plain path leads through neither the output nor the place beside it. -/
theorem not_detours_of_isPlain {output : Path} (hplain : output.IsPlain)
    (before after : FileSystem) : ¬ Detours output before after := by
  obtain ⟨unfinished, parent, name, hunfinished, h⟩ := hplain.exists_beside
  rintro (⟨l, hway, hl, -⟩ | ⟨u, hu, hway, -⟩)
  · exact h.not_output_prefix_onWay hplain.not_up (h.inFrontOf_iff.mp hway) hl
  · obtain rfl : unfinished = u := Option.some.inj (hunfinished.symm.trans hu)
    exact h.not_unfinished_prefix_onWay hplain.not_up (h.inFrontOf_iff.mp hway) List.prefix_rfl

/-- Which failures leave the output as it was and nothing new beside it. A failure that is met while
the output is replaced leaves there what was built, so it does not if nothing was there before. Any
other does exactly if the path did not lead through the output or the place beside it. A plain path
never leads there, and on it an output cannot be replaced only if it is not of the same form. -/
theorem failure_harmless_iff {form : OutputForm} {overwrite : Bool} {files : List ProjectFile}
    {project : Project} {output : Path} {s s' : Session} {e : PackagingError}
    (hproject : Project.ofFiles files = .ok project)
    (hrun : (form.pack overwrite project output).outcome s = (.error e, s')) :
    (e.isLate = true → ∃ unfinished, unfinishedPath? output = some unfinished ∧
      (s'.files.at? (s.files.place unfinished)).isSome ∧
      (s.files.at? (s.files.place unfinished) = none → ¬ Harmless output s.files s'.files)) ∧
    (e.isLate = false →
      (Harmless output s.files s'.files ↔ ¬ Detours output s.files s'.files)) ∧
    (output.IsPlain → ¬ Detours output s.files s'.files ∧
      (e.isLate = true → ∃ entry, s.files.at? (s.files.place output) = some entry ∧
        form.replaces entry = false)) := by
  have hknown : FailureKnown form output e s.files s'.files := by
    cases form with
    | directory => exact packDirectory_failure (Project.isInner_of_ofFiles hproject) hrun
    | archive root => exact packArchive_failure hrun
  rcases hknown with ⟨hearly, hfails⟩ | ⟨hlate, hfails⟩
  · refine ⟨fun h => ?_, fun _ => hfails.harmless_iff, fun hplain => ⟨?_, fun h => ?_⟩⟩
    · rw [hearly] at h
      cases h
    · exact not_detours_of_isPlain hplain s.files s'.files
    · rw [hearly] at h
      cases h
  · refine ⟨fun _ => hfails.exists_left, fun h => ?_, fun hplain => ⟨?_, fun _ => ?_⟩⟩
    · rw [hlate] at h
      cases h
    · exact not_detours_of_isPlain hplain s.files s'.files
    · exact hfails.blocked hplain

/-- A file stands where a directory is to be written. -/
def occupied : Session :=
  .ofFiles ⟨[(["out"], .file (.text "x"))], []⟩

/-- What is left when the file cannot be removed as a directory. -/
def occupiedAfter : Session :=
  .ofFiles
    ⟨[(["out"], .file (.text "x")),
      ([".out.partial"], .directory),
      ([".out.partial", "a.txt"], .file (.text "a"))], []⟩

theorem failure_harmless_iff_occupied :
    Project.ofFiles [⟨⟨"a.txt"⟩, "a"⟩] = .ok ⟨[⟨⟨"a.txt"⟩, "a"⟩]⟩ ∧
      (OutputForm.directory.pack true ⟨[⟨⟨"a.txt"⟩, "a"⟩]⟩ ⟨"out"⟩).outcome occupied =
        (.error (.removingDirectory ⟨"out"⟩ .notDirectory), occupiedAfter) ∧
      ∃ unfinished, unfinishedPath? ⟨"out"⟩ = some unfinished ∧
        (occupiedAfter.files.at? (occupied.files.place unfinished)).isSome ∧
        (occupied.files.at? (occupied.files.place unfinished) = none →
          ¬ Harmless ⟨"out"⟩ occupied.files occupiedAfter.files) := by
  have hproject : Project.ofFiles [⟨⟨"a.txt"⟩, "a"⟩] = .ok ⟨[⟨⟨"a.txt"⟩, "a"⟩]⟩ := by
    decide +kernel
  have hrun : (OutputForm.directory.pack true ⟨[⟨⟨"a.txt"⟩, "a"⟩]⟩ ⟨"out"⟩).outcome occupied =
      (.error (.removingDirectory ⟨"out"⟩ .notDirectory), occupiedAfter) := by
    decide +kernel
  exact ⟨hproject, hrun, (failure_harmless_iff hproject hrun).1 rfl⟩

/-- A failure can leave what was built beside an output that it could not replace. -/
theorem exists_failure_not_harmless :
    ∃ e s', (OutputForm.directory.pack true ⟨[⟨⟨"a.txt"⟩, "a"⟩]⟩ ⟨"out"⟩).outcome occupied =
        (.error e, s') ∧
      ¬ Harmless ⟨"out"⟩ occupied.files s'.files := by
  refine ⟨.removingDirectory ⟨"out"⟩ .notDirectory, occupiedAfter, by decide +kernel, ?_⟩
  intro hharmless
  have hpath : unfinishedPath? ⟨"out"⟩ = some ⟨".out.partial"⟩ := by decide +kernel
  have hplace : occupied.files.place ⟨".out.partial"⟩ = [".out.partial"] := by decide +kernel
  have hbefore : occupied.files.at? [".out.partial"] = none := by decide +kernel
  have hafter : occupiedAfter.files.at? [".out.partial"] = some .directory := by decide +kernel
  have hleft := hharmless.nothing_left _ hpath
  rw [hplace] at hleft
  rcases hleft with hnone | hsame
  · rw [hafter] at hnone
    cases hnone
  · have hnew := hsame [".out.partial"] List.prefix_rfl
    rw [hafter, hbefore] at hnew
    cases hnew

end Scaffold

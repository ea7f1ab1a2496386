import Scaffold.Proofs.Project.Outcome

/-!
# The two forms of an output

A project can be written as a directory or as an archive. The directory is made by following the
paths of its files, the archive by printing them. Since these paths are joined from names, both come
to the same: the names in the archive, without the root folder, are the relative paths of the files
in the directory, and the contents are the same.

One thing keeps the directory from agreeing with the archive. What lies at the place beside the
output and is not found there, because the way to it leads through a directory that is still
missing, is not cleared away but taken over. All of it is in the directory and nothing of it in the
archive, and there is no other difference (`DirectoryRun.hasFileBelow_iff`).

## Main definitions

* `FileSystem.HasFileBelow`: a regular file below a location, by its relative path.
* `Project.TakesOver`: a file that a directory takes over.

## Main results

* `forms_agree`: the archive of one run and the directory of another.
-/

namespace Scaffold

/-- A regular file with some content lies below a location, at a relative path. -/
def FileSystem.HasFileBelow (fs : FileSystem) (root : Location) (path : String)
    (content : Content) : Prop :=
  ∃ l, "/".intercalate l = path ∧ fs.at? (root ++ l) = some (.file content)

/-- A regular file lies at the place beside an output, at a relative path where the project has
nothing, and the place is not found. -/
def Project.TakesOver (project : Project) (output : Path) (fs : FileSystem) (path : String)
    (content : Content) : Prop :=
  ∃ l, "/".intercalate l = path ∧ project.entryAt? l = none ∧
    ∃ unfinished, unfinishedPath? output = some unfinished ∧ fs.stat? unfinished = none ∧
      fs.at? (fs.place unfinished ++ l) = some (.file content)

/-! ### Directories -/

namespace DirectoryRun

variable {project : Project} {output unfinished parent : Path} {name : String}
  {s cleared built s' : Session}

/-- The files in a directory that was written are those of the project and those that were taken
over. -/
theorem hasFileBelow_iff (r : DirectoryRun project output unfinished parent name s cleared built s')
    (hproject : ∀ f ∈ project.files, f.path.isInner = true)
    (hdistinct : (project.files.map (·.path.location)).Nodup)
    (hjoined : ∀ f ∈ project.files, f.path.Joined) (path : String) (content : Content) :
    s'.files.HasFileBelow (s.files.place output) path content ↔
      (∃ f ∈ project.files, f.path.text = path ∧ content = .text f.content) ∨
        project.TakesOver output s.files path content := by
  have hcontents := (r.filled hproject hdistinct).1
  constructor
  · rintro ⟨l, rfl, hat⟩
    cases hentry : project.entryAt? l with
    | some e =>
      obtain rfl : e = .file content := Option.some.inj ((hcontents l e hentry).symm.trans hat)
      obtain ⟨f, hf, rfl, hcontent⟩ := (Project.entryAt?_eq_file_iff hdistinct).mp hentry
      exact .inl ⟨f, hf, (hjoined f hf).text_eq, hcontent⟩
    | none =>
      obtain ⟨u, hu, ⟨hstat, hbefore⟩ | ⟨-, hdirectory⟩⟩ := r.leftover hproject hdistinct hentry hat
      · exact .inr ⟨l, rfl, hentry, u, hu, hstat, hbefore⟩
      · cases hdirectory
  · rintro (⟨f, hf, rfl, rfl⟩ | ⟨l, rfl, hentry, u, hu, hstat, hbefore⟩)
    · exact ⟨f.path.location, (hjoined f hf).text_eq.symm,
        hcontents _ _ (Project.entryAt?_of_mem hdistinct hf)⟩
    · exact ⟨l, rfl, r.keepsUnfound hproject hdistinct u hu hstat l _ hentry hbefore⟩

/-- Nothing is taken over if the path to the output does not go up. -/
theorem not_takesOver (r : DirectoryRun project output unfinished parent name s cleared built s')
    (htree : s.files.IsTree) (hup : ".." ∉ FileSystem.segments output) (path : String)
    (content : Content) : ¬ project.TakesOver output s.files path content := by
  rintro ⟨l, -, hentry, u, hu, hstat, hbefore⟩
  refine r.not_leftover htree hup ?_ ⟨u, hu, .inl ⟨hstat, hbefore⟩⟩
  rintro rfl
  have hsome := project.entryAt?_nil_isSome
  rw [hentry] at hsome
  cases hsome

end DirectoryRun

/-! ### Runs -/

section

variable {render : Renderer} {verbose : Bool} {st : Settings} {s s' : Session}

/-- A run that goes through packages the project of the diagram. -/
theorem runRendering_ok
    (hrun : (runRendering render verbose st : Running Unit).run.run s = (.ok (), s')) :
    ∃ text d project s₁ s₂, s.files.readText st.schemaFile = .ok text ∧
      Diagram.parse text = .ok d ∧ generate d st.parameters render = .ok project ∧
      s₁.files = s.files ∧ s₂.files = s'.files ∧
      (st.form.pack st.overwrite project st.destination).outcome s₁ = (.ok (), s₂) := by
  rcases runRendering_cases hrun with ⟨e, -, herror, -⟩ |
    ⟨project, packed, s₁, s₂, hprepare, hfiles₁, hpack, hok, hfiles'⟩
  · cases herror
  · obtain rfl : packed = .ok () := mapError_eq_ok_iff.mp hok.symm
    obtain ⟨text, d, hread, hparse, -, hgenerate⟩ := prepare_eq_ok_iff.mp hprepare
    exact ⟨text, d, project, s₁, s₂, hread, hparse, hgenerate, hfiles₁, hfiles'.symm, hpack⟩

/-- What a run leaves that writes a directory. -/
theorem runRendering_directory_ok
    (hrun : (runRendering render verbose st : Running Unit).run.run s = (.ok (), s'))
    (hform : st.archive = false) (hpackage : Naming.isPackage st.parameters.basePackage = true) :
    ∃ text d project, s.files.readText st.schemaFile = .ok text ∧
      Diagram.parse text = .ok d ∧ generate d st.parameters render = .ok project ∧
      (∀ path content, s'.files.HasFileBelow (s.files.place st.outputDir) path content ↔
        (∃ f ∈ project.files, f.path.text = path ∧ content = .text f.content) ∨
          project.TakesOver st.outputDir s.files path content) ∧
      (s.files.IsTree → ".." ∉ FileSystem.segments st.outputDir →
        ∀ path content, ¬ project.TakesOver st.outputDir s.files path content) := by
  obtain ⟨text, d, project, s₁, s₂, hread, hparse, hgenerate, hfiles₁, hfiles₂, hpack⟩ :=
    runRendering_ok hrun
  rw [Settings.form, Settings.destination, if_neg (by simp [hform]), if_neg (by simp [hform])]
    at hpack
  obtain ⟨hplaced, -⟩ := generate_ok hgenerate
  obtain ⟨unfinished, parent, name, cleared, built, r⟩ := packDirectory_ok hplaced.inner hpack
  have hfiles := r.hasFileBelow_iff hplaced.inner (locations_nodup_of_generate hpackage hgenerate)
    (joined_of_generate hpackage hgenerate)
  have hnothing := r.not_takesOver
  rw [hfiles₁] at hfiles hnothing
  rw [hfiles₂] at hfiles
  exact ⟨text, d, project, hread, hparse, hgenerate, hfiles, hnothing⟩

/-- What a run leaves that writes an archive. -/
theorem runRendering_archive_ok
    (hrun : (runRendering render verbose st : Running Unit).run.run s = (.ok (), s'))
    (hform : st.archive = true) (hpackage : Naming.isPackage st.parameters.basePackage = true) :
    ∃ text d project, s.files.readText st.schemaFile = .ok text ∧
      Diagram.parse text = .ok d ∧ generate d st.parameters render = .ok project ∧
      s'.files.at? (s.files.place st.archiveFile) = some (.file (.archive
        (⟨st.parameters.artifactId ++ "/", ""⟩ ::
          project.files.map fun f => ⟨st.parameters.artifactId ++ "/" ++ f.path.text, f.content⟩)))
      := by
  obtain ⟨text, d, project, s₁, s₂, hread, hparse, hgenerate, hfiles₁, hfiles₂, hpack⟩ :=
    runRendering_ok hrun
  rw [Settings.form, Settings.destination, if_pos hform, if_pos hform] at hpack
  obtain ⟨hat, -⟩ := packArchive_ok hpack
  rw [Project.toEntries_eq (ofNames_of_generate hpackage hgenerate), hfiles₁, hfiles₂] at hat
  exact ⟨text, d, project, hread, hparse, hgenerate, hat⟩

end

/-- Without the root folder, the entries of an archive are the files of the project. -/
theorem exists_entry_iff {files : List ProjectFile} {root path : String} {content : Content} :
    (∃ text, (⟨root ++ "/" ++ path, text⟩ : ArchiveEntry) ∈
        files.map (fun f => ⟨root ++ "/" ++ f.path.text, f.content⟩) ∧ content = .text text) ↔
      ∃ f ∈ files, f.path.text = path ∧ content = .text f.content := by
  constructor
  · rintro ⟨text, hmem, rfl⟩
    obtain ⟨f, hf, hentry⟩ := List.mem_map.mp hmem
    obtain ⟨hname, rfl⟩ := ArchiveEntry.mk.inj hentry
    exact ⟨f, hf, (String.append_right_inj _).mp hname, rfl⟩
  · rintro ⟨f, hf, rfl, rfl⟩
    exact ⟨f.content, List.mem_map_of_mem hf, rfl⟩

/-- **Both forms hold the same files.** Let a run that writes a directory and one that writes an
archive go through, with the same settings otherwise and from the same diagram. Then the archive has
the root folder first and after it one entry for each step of the generation, in their order. What
these entries hold, under their names without the root folder, are the regular files that are found
below the output directory of the other run, apart from those that were taken over; and none is if
the path to the output directory does not go up. -/
theorem forms_agree {render : Renderer} {verbose verbose' : Bool} {st : Settings}
    {s s' t t' : Session} (hpackage : Naming.isPackage st.parameters.basePackage = true)
    (hschema : t.files.readText st.schemaFile = s.files.readText st.schemaFile)
    (hdirectory : (runRendering render verbose { st with archive := false } : Running Unit).run.run
      s = (.ok (), s'))
    (harchive : (runRendering render verbose' { st with archive := true } : Running Unit).run.run
      t = (.ok (), t')) :
    ∃ text d project entries, s.files.readText st.schemaFile = .ok text ∧
      Diagram.parse text = .ok d ∧ generate d st.parameters render = .ok project ∧
      t'.files.at? (t.files.place st.archiveFile) =
        some (.file (.archive (⟨st.parameters.artifactId ++ "/", ""⟩ :: entries))) ∧
      entries.map ArchiveEntry.name = (generationSteps d st.parameters).map (fun step =>
        st.parameters.artifactId ++ "/" ++ step.path.text) ∧
      (∀ path content, s'.files.HasFileBelow (s.files.place st.outputDir) path content ↔
        (∃ text, ⟨st.parameters.artifactId ++ "/" ++ path, text⟩ ∈ entries ∧
          content = .text text) ∨ project.TakesOver st.outputDir s.files path content) ∧
      (s.files.IsTree → ".." ∉ FileSystem.segments st.outputDir →
        ∀ path content, ¬ project.TakesOver st.outputDir s.files path content) := by
  obtain ⟨text, d, project, hread, hparse, hgenerate, hfiles, hnothing⟩ :=
    runRendering_directory_ok hdirectory rfl hpackage
  obtain ⟨text', d', project', hread', hparse', hgenerate', hat⟩ :=
    runRendering_archive_ok harchive rfl hpackage
  -- the same diagram was read, so the same project was generated
  cases (hread.symm.trans hschema.symm).trans hread'
  cases hparse.symm.trans hparse'
  cases hgenerate.symm.trans hgenerate'
  refine ⟨text, d, project, _, hread, hparse, hgenerate, hat, ?_, fun path content => ?_, hnothing⟩
  · have hnames := congrArg (List.map fun path : Path =>
      st.parameters.artifactId ++ "/" ++ path.text) (generate_ok hgenerate).2
    rw [List.map_map, List.map_map] at hnames
    rw [List.map_map]
    exact hnames
  · rw [exists_entry_iff]
    exact hfiles path content

/-- Settings with an output that is reached at once, though an earlier run may have left something
beside it. -/
def direct : Settings :=
  { detour with outputDir := ⟨"o"⟩ }

theorem forms_agree_direct :
    Naming.isPackage direct.parameters.basePackage = true ∧
      ∃ s' t' : Session, ∃ entries,
        (run false { direct with archive := false } : Running Unit).run.run detourStart =
          (.ok (), s') ∧
        (run false { direct with archive := true } : Running Unit).run.run detourStart =
          (.ok (), t') ∧
        t'.files.at? ["o", "d.zip"] = some (.file (.archive (⟨"d/", ""⟩ :: entries))) ∧
        ∀ path content, s'.files.HasFileBelow ["o"] path content ↔
          ∃ text, ⟨"d/" ++ path, text⟩ ∈ entries ∧ content = .text text := by
  have hpackage : Naming.isPackage direct.parameters.basePackage = true := by decide +kernel
  have hok : ∀ archive,
      ((run false { direct with archive := archive } : Running Unit).run.run detourStart).1 =
        .ok () := by
    decide +kernel
  have hdirectory : (run false { direct with archive := false } : Running Unit).run.run detourStart
      = (.ok (), _) := Prod.ext (hok false) rfl
  have harchive : (run false { direct with archive := true } : Running Unit).run.run detourStart
      = (.ok (), _) := Prod.ext (hok true) rfl
  obtain ⟨-, -, project, entries, -, -, -, hat, -, hfiles, hnothing⟩ :=
    forms_agree hpackage rfl hdirectory harchive
  have hplace : detourStart.files.place direct.outputDir = ["o"] := by decide +kernel
  have hplace' : detourStart.files.place direct.archiveFile = ["o", "d.zip"] := by decide +kernel
  rw [hplace'] at hat
  rw [hplace] at hfiles
  refine ⟨hpackage, _, _, entries, hdirectory, harchive, hat, fun path content => ?_⟩
  rw [hfiles path content]
  exact or_iff_left (hnothing (by decide +kernel) (by decide +kernel) path content)

/-- A file can be in the directory that one run writes and not in the archive that another writes
from the same start, where no output was before. -/
theorem exists_forms_disagree :
    Naming.isPackage detour.parameters.basePackage = true ∧ detourStart.files.IsTree ∧
      detourStart.files.at? (detourStart.files.place detour.outputDir) = none ∧
      ∃ s' t' : Session, ∃ entries,
        (run false { detour with archive := false } : Running Unit).run.run detourStart =
          (.ok (), s') ∧
        (run false { detour with archive := true } : Running Unit).run.run detourStart =
          (.ok (), t') ∧
        t'.files.at? (detourStart.files.place detour.archiveFile) =
          some (.file (.archive (⟨"d/", ""⟩ :: entries))) ∧
        s'.files.HasFileBelow (detourStart.files.place detour.outputDir) "s" (.text "s") ∧
        ∀ text, ⟨"d/" ++ "s", text⟩ ∉ entries := by
  have hpackage : Naming.isPackage detour.parameters.basePackage = true := by decide +kernel
  obtain ⟨s', hdirectory, htaken⟩ := run_detour
  have hok : ((run false { detour with archive := true } : Running Unit).run.run detourStart).1 =
      .ok () := by
    decide +kernel
  have harchive : (run false { detour with archive := true } : Running Unit).run.run detourStart
      = (.ok (), _) := Prod.ext hok rfl
  obtain ⟨text, d, project, hread, hparse, hgenerate, hat⟩ :=
    runRendering_archive_ok harchive rfl hpackage
  refine ⟨hpackage, by decide +kernel, by decide +kernel, s', _, _, hdirectory, harchive, hat,
    ⟨["s"], by decide +kernel, ?_⟩, fun content hentry => ?_⟩
  · have hplace : detourStart.files.place detour.outputDir = ["o"] := by decide +kernel
    rw [hplace]
    exact htaken
  · obtain ⟨f, hf, hpath, -⟩ := exists_entry_iff.mp ⟨content, hentry, rfl⟩
    have hread' : detourStart.files.readText detour.schemaFile = .ok "\x7b\x7d" := by decide +kernel
    have hparse' : Diagram.parse "\x7b\x7d" = .ok ⟨[], []⟩ := by decide +kernel
    cases hread.symm.trans hread'
    cases hparse.symm.trans hparse'
    have hmem : f.path ∈ (generationSteps ⟨[], []⟩ detour.parameters).map Step.path := by
      rw [← (generate_ok hgenerate).2]
      exact List.mem_map_of_mem hf
    have hnone : ∀ p ∈ (generationSteps ⟨[], []⟩ detour.parameters).map Step.path,
        p.text ≠ "s" := by
      decide +kernel
    exact hnone f.path hmem hpath

end Scaffold

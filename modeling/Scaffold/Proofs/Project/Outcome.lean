import Mathlib.Data.List.Nodup
import Scaffold.Proofs.Packaging.Confinement
import Scaffold.Proofs.Project.Generated
import Scaffold.Proofs.Project.Preparation

/-!
# The outcome of a run

A run that cannot go through says so before it touches a file: the diagram has to be read, parsed
and accepted, all its files have to be generated, and an output that is found must not be there
unless it may be replaced. A run that goes through writes what was generated from the diagram and
nothing else, as long as the path to the output directory does not go up; an archive holds it in any
case.

The settings say independently of each other where the diagram is and where the output goes, and
replacing an output removes everything in it. So the file with the diagram can be lost: if it lies
in an output that the run may replace, or at the place beside it, which the run clears for itself.
There is no other way to lose it, and an output that is found and must not be replaced protects what
is in it and beside it.

## Main definitions

* `Unfit`: what keeps a run from touching any file.
* `HoldsExactly`: the files below a location are those of a project.

## Main results

* `run_outcome`: what a run comes to.
* `input_kept`: when the file with the diagram is still there after a run.
-/

namespace Scaffold

/-! ### What is written -/

/-- The files below a location are those of a project. -/
def HoldsExactly (project : Project) (root : Location) (fs : FileSystem) : Prop :=
  ∀ l content, fs.at? (root ++ l) = some (.file content) ↔
    ∃ f ∈ project.files, f.path.location = l ∧ content = .text f.content

theorem Project.entryAt?_of_mem {t : Project} (hdistinct : (t.files.map (·.path.location)).Nodup)
    {f : ProjectFile} (hf : f ∈ t.files) :
    t.entryAt? f.path.location = some (.file (.text f.content)) := by
  rw [entryAt?]
  cases hfind : t.files.find? fun g => g.path.location = f.path.location with
  | none =>
    have hother := List.find?_eq_none.mp hfind f hf
    simp at hother
  | some g =>
    have hlocation : g.path.location = f.path.location := by
      simpa using List.find?_some hfind
    rw [List.inj_on_of_nodup_map hdistinct (List.mem_of_find?_eq_some hfind) hf hlocation]

theorem Project.entryAt?_eq_file_iff {t : Project}
    (hdistinct : (t.files.map (·.path.location)).Nodup) {l : Location} {content : Content} :
    t.entryAt? l = some (.file content) ↔
      ∃ f ∈ t.files, f.path.location = l ∧ content = .text f.content := by
  constructor
  · intro h
    rcases t.entryAt?_cases h with ⟨f, hf, hlocation, hentry⟩ | ⟨-, hentry⟩ | ⟨f, -, -, -, hentry⟩
    · exact ⟨f, hf, hlocation, Entry.file.inj hentry⟩
    · cases hentry
    · cases hentry
  · rintro ⟨f, hf, rfl, rfl⟩
    exact entryAt?_of_mem hdistinct hf

/-- An output with nothing but a project in it holds the files of the project. -/
theorem Packed.holdsExactly {project : Project} {output : Path} {before after : FileSystem}
    (h : Packed project output (fun _ _ => False) before after)
    (hdistinct : (project.files.map (·.path.location)).Nodup) :
    HoldsExactly project (before.place output) after := by
  intro l content
  rw [← project.entryAt?_eq_file_iff hdistinct]
  cases hentry : project.entryAt? l with
  | some e => rw [h.contents l e hentry]
  | none =>
    constructor
    · intro hat
      exact (h.nothing_else l _ hentry hat).elim
    · intro hsome
      cases hsome

theorem withSlashes_of_not_mem {s : String} (h : '\\' ∉ s.toList) : withSlashes s = s := by
  have hmap : (s.toList.map fun c => if c = '\\' then '/' else c) = s.toList.map id := by
    refine List.map_congr_left fun c hc => ?_
    rw [if_neg, id]
    rintro rfl
    exact h hc
  rw [withSlashes, hmap, List.map_id, String.ofList_toList]

/-- The names in an archive are the paths of the files under the root folder. -/
theorem Project.toEntries_eq {project : Project} (h : ∀ f ∈ project.files, f.path.OfNames)
    (root : String) :
    project.toEntries root =
      ⟨root ++ "/", ""⟩ :: project.files.map fun f => ⟨root ++ "/" ++ f.path.text, f.content⟩ := by
  rw [toEntries]
  congr 1
  refine List.map_congr_left fun f hf => ?_
  rw [ProjectFile.toEntry, withSlashes_of_not_mem (h f hf).no_backslash]

/-! ### Runs -/

/-- What keeps a run from touching any file: the diagram cannot be read or parsed, two of its
classes have one identifier or one entity name, or the output is found and must not be replaced. -/
inductive Unfit (st : Settings) (fs : FileSystem) : Prop
  | unreadable {e : DiskError} (hread : fs.readText st.schemaFile = .error e)
  | unparsable {text : String} {e : Json.Error} (hread : fs.readText st.schemaFile = .ok text)
      (hparse : Diagram.parse text = .error e)
  | repeatedId {text : String} {d : Diagram} (hread : fs.readText st.schemaFile = .ok text)
      (hparse : Diagram.parse text = .ok d)
      (hrepeated : ¬ (d.normalize.classes.map ClassBox.id).Nodup)
  | repeatedEntity {text : String} {d : Diagram} (hread : fs.readText st.schemaFile = .ok text)
      (hparse : Diagram.parse text = .ok d)
      (hrepeated : ¬ (d.normalize.classes.map ClassBox.entity).Nodup)
  | occupied (hthere : (fs.stat? st.destination).isSome = true) (hkeep : st.overwrite = false)

/-- A run that is unfit and has a project to package finds an output that must not be replaced. -/
theorem Unfit.occupied_of_prepare {render : Renderer} {st : Settings} {fs : FileSystem}
    {project : Project} (h : Unfit st fs) (hprepare : prepare render st fs = .ok project) :
    (fs.stat? st.destination).isSome = true ∧ st.overwrite = false := by
  obtain ⟨text, d, hread, hparse, hvalid, hgenerate⟩ := prepare_eq_ok_iff.mp hprepare
  cases h with
  | unreadable hread' => cases hread.symm.trans hread'
  | unparsable hread' hparse' =>
    cases hread.symm.trans hread'
    cases hparse.symm.trans hparse'
  | repeatedId hread' hparse' hrepeated =>
    cases hread.symm.trans hread'
    cases hparse.symm.trans hparse'
    exact absurd (d.duplicate?_normalize_eq_none_iff.mp hvalid) hrepeated
  | repeatedEntity hread' hparse' hrepeated =>
    cases hread.symm.trans hread'
    cases hparse.symm.trans hparse'
    exact absurd (entities_nodup_of_generate hgenerate) hrepeated
  | occupied hthere hkeep => exact ⟨hthere, hkeep⟩

/-- What a run leaves at the output that went through. -/
structure Written (st : Settings) (project : Project) (before after : FileSystem) : Prop where
  archive : st.archive = true →
    after.at? (before.place st.archiveFile) = some (.file (.archive
      (⟨st.parameters.artifactId ++ "/", ""⟩ ::
        project.files.map fun f => ⟨st.parameters.artifactId ++ "/" ++ f.path.text, f.content⟩))) ∧
      Delivered st.archiveFile before after
  directory : st.archive = false →
    Packed project st.outputDir (Leftover st.outputDir before) before after ∧
      (before.IsTree → ".." ∉ FileSystem.segments st.outputDir →
        HoldsExactly project (before.place st.outputDir) after)

theorem written_of_pack {st : Settings} {project : Project} {s s' : Session}
    (hnames : ∀ f ∈ project.files, f.path.OfNames)
    (hinner : ∀ f ∈ project.files, f.path.isInner = true)
    (hdistinct : (project.files.map (·.path.location)).Nodup)
    (hrun : (st.form.pack st.overwrite project st.destination).outcome s = (.ok (), s')) :
    Written st project s.files s'.files := by
  rw [Settings.form, Settings.destination] at hrun
  constructor
  · intro harchive
    rw [if_pos harchive, if_pos harchive] at hrun
    rw [← Project.toEntries_eq hnames]
    exact packArchive_ok hrun
  · intro hdirectory
    rw [if_neg (by simp [hdirectory]), if_neg (by simp [hdirectory])] at hrun
    obtain ⟨unfinished, parent, name, cleared, built, r⟩ := packDirectory_ok hinner hrun
    refine ⟨r.packed hinner hdistinct, fun htree hup => ?_⟩
    exact (r.packed_exact hinner hdistinct htree hup).holdsExactly hdistinct

/-- What a run comes to. If it is unfit, then it fails and no file is touched. If it goes through,
then the diagram was read and parsed, and what was generated from it is in the output: as an
archive, file by file under the root folder; as a directory, with nothing else unless the path to it
goes up. -/
theorem run_outcome {render : Renderer} {verbose : Bool} {st : Settings} {s s' : Session}
    {result : Except Failure Unit}
    (hpackage : Naming.isPackage st.parameters.basePackage = true)
    (hrun : (runRendering render verbose st : Running Unit).run.run s = (result, s')) :
    (Unfit st s.files → (∃ e, result = .error e) ∧ s'.files = s.files) ∧
      (result = .ok () → ∃ text d project, s.files.readText st.schemaFile = .ok text ∧
        Diagram.parse text = .ok d ∧ generate d st.parameters render = .ok project ∧
        Written st project s.files s'.files) := by
  rcases runRendering_cases hrun with ⟨e, -, rfl, hfiles⟩ |
    ⟨project, packed, s₁, s₂, hprepare, hfiles₁, hpack, rfl, hfiles'⟩
  · refine ⟨fun _ => ⟨⟨e, rfl⟩, hfiles⟩, fun hok => ?_⟩
    cases hok
  · constructor
    · intro hunfit
      obtain ⟨hthere, hkeep⟩ := hunfit.occupied_of_prepare hprepare
      rw [← hfiles₁] at hthere
      rw [hkeep] at hpack
      cases (pack_refused hthere).symm.trans hpack
      exact ⟨⟨_, rfl⟩, hfiles'.trans hfiles₁⟩
    · intro hok
      obtain ⟨text, d, hread, hparse, -, hgenerate⟩ := prepare_eq_ok_iff.mp hprepare
      obtain rfl : packed = .ok () := mapError_eq_ok_iff.mp hok
      have hwritten := written_of_pack (ofNames_of_generate hpackage hgenerate)
        (generate_ok hgenerate).1.inner (locations_nodup_of_generate hpackage hgenerate) hpack
      rw [hfiles₁, ← hfiles'] at hwritten
      exact ⟨text, d, project, hread, hparse, hgenerate, hwritten⟩

/-- Settings with an output that is reached through a directory that is not there. -/
def detour : Settings where
  schemaFile := ⟨"u"⟩
  outputDir := ⟨"x/../o"⟩
  overwrite := false
  archive := false
  parameters := .standard "d" "d"

/-- A diagram without classes, and what an earlier run left beside the output. -/
def detourStart : Session :=
  .ofFiles
    ⟨[(["u"], .file (.text "\x7b\x7d")),
      ([".o.partial"], .directory),
      ([".o.partial", "s"], .file (.text "s"))], []⟩

/-- A run goes through and takes over what an earlier run left. -/
theorem run_detour :
    ∃ s', (run false detour : Running Unit).run.run detourStart = (.ok (), s') ∧
      s'.files.at? ["o", "s"] = some (.file (.text "s")) := by
  have heval : ((run false detour : Running Unit).run.run detourStart).1 = .ok () ∧
      ((run false detour : Running Unit).run.run detourStart).2.files.at? ["o", "s"] =
        some (.file (.text "s")) := by
    decide +kernel
  generalize (run false detour : Running Unit).run.run detourStart = outcome at heval ⊢
  obtain ⟨result, s'⟩ := outcome
  obtain ⟨rfl, hat⟩ := heval
  exact ⟨s', rfl, hat⟩

theorem run_outcome_detour :
    Naming.isPackage detour.parameters.basePackage = true ∧
      ∃ s', (run false detour : Running Unit).run.run detourStart = (.ok (), s') ∧
        ∃ text d project, detourStart.files.readText detour.schemaFile = .ok text ∧
          Diagram.parse text = .ok d ∧
          generate d detour.parameters builtinRenderer = .ok project ∧
          Written detour project detourStart.files s'.files := by
  have hpackage : Naming.isPackage detour.parameters.basePackage = true := by decide +kernel
  obtain ⟨s', hrun, -⟩ := run_detour
  exact ⟨hpackage, s', hrun, (run_outcome hpackage hrun).2 rfl⟩

/-- A run can go through and leave at the output what an earlier run left beside it. -/
theorem exists_run_inexact :
    detourStart.files.IsTree ∧ Naming.isPackage detour.parameters.basePackage = true ∧
      ∃ d project s', Diagram.parse "\x7b\x7d" = .ok d ∧
        generate d detour.parameters builtinRenderer = .ok project ∧
        (run false detour : Running Unit).run.run detourStart = (.ok (), s') ∧
        ¬ HoldsExactly project (detourStart.files.place detour.outputDir) s'.files := by
  refine ⟨by decide +kernel, by decide +kernel, ⟨[], []⟩, ?_⟩
  have hparse : Diagram.parse "\x7b\x7d" = .ok ⟨[], []⟩ := by decide +kernel
  have hread : detourStart.files.readText detour.schemaFile = .ok "\x7b\x7d" := by decide +kernel
  obtain ⟨s', hrun, hstale⟩ := run_detour
  rcases runRendering_cases hrun with ⟨e, -, herror, -⟩ | ⟨project, -, -, -, hprepare, -⟩
  · cases herror
  obtain ⟨text, d, hread', hparse', -, hgenerate⟩ := prepare_eq_ok_iff.mp hprepare
  cases hread.symm.trans hread'
  cases hparse.symm.trans hparse'
  refine ⟨project, s', hparse, hgenerate, hrun, fun hexact => ?_⟩
  have hplace : detourStart.files.place detour.outputDir = ["o"] := by decide +kernel
  rw [hplace] at hexact
  obtain ⟨f, hf, hlocation, -⟩ := (hexact ["s"] _).mp hstale
  have hpath : f.path ∈ (generationSteps ⟨[], []⟩ detour.parameters).map Step.path := by
    rw [← (generate_ok hgenerate).2]
    exact List.mem_map_of_mem hf
  have hnone : ∀ p ∈ (generationSteps ⟨[], []⟩ detour.parameters).map Step.path,
      p.location ≠ ["s"] := by
    decide +kernel
  exact hnone f.path hpath hlocation

/-! ### The diagram after a run -/

/-- Whatever comes of a run, the file with the diagram is as it was, unless the output may be
replaced or was not found, and the file lies at the place beside the output, or in an output that
was replaced or was about to be. -/
theorem input_kept {render : Renderer} {verbose : Bool} {st : Settings} {s s' : Session}
    {result : Except Failure Unit} {l : Location} {content : Content}
    (hlook : s.files.look st.schemaFile = .ok (l, .file content))
    (hrun : (runRendering render verbose st : Running Unit).run.run s = (result, s')) :
    s'.files.at? l = some (.file content) ∨
      (st.overwrite = true ∨ s.files.stat? st.destination = none) ∧
        ((∃ unfinished, unfinishedPath? st.destination = some unfinished ∧
            s.files.place unfinished <+: l) ∨
          s.files.place st.destination <+: l ∧
            (result = .ok () ∨ ∃ e, result = .error (.packaging e) ∧ e.isLate = true)) := by
  have hat := (FileSystem.look_eq_ok hlook).2
  rcases runRendering_cases hrun with ⟨e, -, -, hfiles⟩ |
    ⟨project, packed, s₁, s₂, hprepare, hfiles₁, hpack, rfl, hfiles'⟩
  · left
    rw [hfiles, hat]
  · obtain ⟨text, d, -, -, -, hgenerate⟩ := prepare_eq_ok_iff.mp hprepare
    rw [← hfiles₁] at hat ⊢
    rw [hfiles']
    rcases pack_keeps_file (generate_ok hgenerate).1.inner hpack hat with
      hkept | ⟨hguard, hbeside | ⟨hunder, hlate⟩⟩
    · exact .inl hkept
    · exact .inr ⟨hguard, .inl hbeside⟩
    · refine .inr ⟨hguard, .inr ⟨hunder, ?_⟩⟩
      cases packed with
      | ok u => exact .inl rfl
      | error e => exact .inr ⟨e, rfl, hlate e rfl⟩

/-- Settings with the diagram in the output. -/
def inside (overwrite : Bool) : Settings where
  schemaFile := ⟨"o/u"⟩
  outputDir := ⟨"o"⟩
  overwrite := overwrite
  archive := false
  parameters := .standard "d" "d"

/-- An output with the diagram in it, and settings that let it be replaced. -/
def insideStart : Session :=
  .ofFiles
    ⟨[(["c"], .file (.text
        ("input.schema_file='o/u'\noutput.dir='o'\noutput.overwrite=true\n" ++
          "project.artifact_id='d'\nproject.base_package='d'"))),
      (["o"], .directory),
      (["o", "u"], .file (.text "\x7b\x7d"))], []⟩

theorem input_kept_inside :
    insideStart.files.look (inside false).schemaFile =
        .ok (["o", "u"], .file (.text "\x7b\x7d")) ∧
      ((run false (inside false) : Running Unit).run.run insideStart).2.files.at? ["o", "u"] =
        some (.file (.text "\x7b\x7d")) := by
  have hlook : insideStart.files.look (inside false).schemaFile =
      .ok (["o", "u"], .file (.text "\x7b\x7d")) := by decide +kernel
  refine ⟨hlook, ?_⟩
  rcases hrun : (run false (inside false) : Running Unit).run.run insideStart with ⟨result, s'⟩
  have hthere : insideStart.files.stat? (inside false).destination ≠ none := by decide +kernel
  rcases input_kept hlook hrun with hkept | ⟨hallowed | hnone, -⟩
  · exact hkept
  · cases hallowed
  · exact absurd hnone hthere

/-- A run with settings that were accepted can go through and remove the file with the diagram. -/
theorem exists_input_lost :
    ∃ st s', ((Settings.load ⟨"c"⟩ : Running Settings).run.run insideStart).1 = .ok st ∧
      insideStart.files.look st.schemaFile = .ok (["o", "u"], .file (.text "\x7b\x7d")) ∧
      (run false st : Running Unit).run.run insideStart = (.ok (), s') ∧
      s'.files.at? ["o", "u"] = none := by
  have hload : ((Settings.load ⟨"c"⟩ : Running Settings).run.run insideStart).1 =
      .ok (inside true) := by decide +kernel
  have hlook : insideStart.files.look (inside true).schemaFile =
      .ok (["o", "u"], .file (.text "\x7b\x7d")) := by decide +kernel
  have heval : ((run false (inside true) : Running Unit).run.run insideStart).1 = .ok () ∧
      ((run false (inside true) : Running Unit).run.run insideStart).2.files.at? ["o", "u"] =
        none := by
    decide +kernel
  refine ⟨inside true, ?_⟩
  generalize (run false (inside true) : Running Unit).run.run insideStart = outcome at heval ⊢
  obtain ⟨result, s'⟩ := outcome
  obtain ⟨rfl, hgone⟩ := heval
  exact ⟨s', hload, hlook, rfl, hgone⟩

end Scaffold

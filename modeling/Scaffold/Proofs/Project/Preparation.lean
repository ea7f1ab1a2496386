import Scaffold.Project.Run
import Scaffold.Proofs.Diagram.Repeated
import Scaffold.Proofs.Packaging.Failure

/-!
# Preparing a project

A run has two halves. First the project is prepared: the diagram is read, checked and generated
from, all of it in memory. Then the project is packaged. What is printed and warned of in between
touches no file, and a run that cannot prepare its project ends there. So a run does to the files
what packaging the prepared project does to them, and nothing if there is none.

## Main definitions

* `prepare`: the project that a run packages.
* `Quiet`: a step that goes through and touches no file.
* `announce`, `deliver`, `runDiagram`: the stages of a run.

## Main results

* `prepare_eq_ok_iff`: when there is a project to package.
* `runRendering_cases`: what a run does to the files.
* `normalForm_interchangeable`: it makes no difference whether the normal form is taken first.
-/

namespace Scaffold

/-- A run in a session. -/
abbrev Running := ExceptT Failure (StateM Session)

/-- The diagram in a file, as it is read by a run. -/
def readDiagram (path : Path) (fs : FileSystem) : Except Failure Diagram := do
  let text ← (fs.readText path).mapError (.readingDiagram path)
  (Diagram.parse text).mapError (.parsingDiagram path)

/-- The project of a diagram in its normal form, if the diagram is accepted. -/
def generateValid (render : Renderer) (st : Settings) (d : Diagram) : Except Failure Project := do
  d.validate.mapError (.invalidDiagram st.schemaFile)
  (generate d st.parameters render).mapError .generation

/-- The project that a run packages, or why there is none. -/
def prepare (render : Renderer) (st : Settings) (fs : FileSystem) : Except Failure Project := do
  let d ← readDiagram st.schemaFile fs
  generateValid render st d.normalize

theorem bind_eq_ok_iff {ε α β : Type} {x : Except ε α} {f : α → Except ε β} {b : β} :
    (x >>= f) = .ok b ↔ ∃ a, x = .ok a ∧ f a = .ok b := by
  cases x with
  | error e =>
    constructor
    · intro h
      cases h
    · rintro ⟨a, h, -⟩
      cases h
  | ok a =>
    constructor
    · intro h
      exact ⟨a, rfl, h⟩
    · rintro ⟨a', h, hf⟩
      cases h
      exact hf

theorem mapError_eq_ok_iff {ε ε' α : Type} {f : ε → ε'} {x : Except ε α} {a : α} :
    x.mapError f = .ok a ↔ x = .ok a := by
  cases x <;> simp [Except.mapError]

theorem generate_normalize (d : Diagram) (p : Parameters) (render : Renderer) :
    generate d.normalize p render = generate d p render := by
  rw [generate, generate, generationSteps, generationSteps, Diagram.normalize_normalize]

/-- There is a project to package if the diagram can be read and parsed, its classes are told apart
by their identifiers, and every file is generated. -/
theorem prepare_eq_ok_iff {render : Renderer} {st : Settings} {fs : FileSystem}
    {project : Project} :
    prepare render st fs = .ok project ↔
      ∃ text d, fs.readText st.schemaFile = .ok text ∧ Diagram.parse text = .ok d ∧
        d.normalize.duplicate? = none ∧ generate d st.parameters render = .ok project := by
  simp only [prepare, readDiagram, generateValid, bind_eq_ok_iff, mapError_eq_ok_iff,
    generate_normalize, Diagram.validate_eq_ok_iff]
  constructor
  · rintro ⟨d, ⟨text, hread, hparse⟩, -, hvalid, hgenerate⟩
    exact ⟨text, d, hread, hparse, hvalid, hgenerate⟩
  · rintro ⟨text, d, hread, hparse, hvalid, hgenerate⟩
    exact ⟨d, ⟨text, hread, hparse⟩, ⟨⟩, hvalid, hgenerate⟩

/-! ### Steps that touch no file -/

/-- A step goes through and touches no file. -/
def Quiet (x : Running Unit) : Prop :=
  ∀ s, ∃ s', x.run.run s = (.ok (), s') ∧ s'.files = s.files

theorem quiet_printLine (wanted : Bool) (line : String) : Quiet (printLine wanted line) := by
  intro s
  cases wanted with
  | false => exact ⟨s, rfl, rfl⟩
  | true => exact ⟨_, rfl, rfl⟩

theorem quiet_warnLine (line : String) : Quiet (warnLine line) := by
  intro s
  exact ⟨_, rfl, rfl⟩

theorem Quiet.bind {x y : Running Unit} (hx : Quiet x) (hy : Quiet y) :
    Quiet (x >>= fun _ => y) := by
  intro s
  obtain ⟨s₁, hfirst, hfiles₁⟩ := hx s
  obtain ⟨s₂, hrest, hfiles₂⟩ := hy s₁
  refine ⟨s₂, ?_, hfiles₂.trans hfiles₁⟩
  rw [Session.runExcept_bind, hfirst]
  exact hrest

theorem quiet_forM {α : Type} {f : α → Running Unit} (h : ∀ a, Quiet (f a)) (l : List α) :
    Quiet (l.forM f) := by
  induction l with
  | nil =>
    intro s
    exact ⟨s, rfl, rfl⟩
  | cons a l ih => exact (h a).bind ih

/-- A quiet step in front changes only what was printed. -/
theorem Quiet.run_bind {x : Running Unit} (h : Quiet x) (f : Unit → Running Unit) (s : Session) :
    ∃ s₁, s₁.files = s.files ∧ (x >>= f).run.run s = (f ()).run.run s₁ := by
  obtain ⟨s₁, hrun, hfiles⟩ := h s
  exact ⟨s₁, hfiles, by rw [Session.runExcept_bind, hrun]⟩

/-- A quiet step at the end changes only what was printed. -/
theorem Quiet.run_bind_last {x y : Running Unit} (h : Quiet y) (s : Session) :
    ∃ s', (x >>= fun _ => y).run.run s = ((x.run.run s).1, s') ∧
      s'.files = (x.run.run s).2.files := by
  rw [Session.runExcept_bind]
  rcases x.run.run s with ⟨e | ⟨⟨⟩⟩, s₁⟩
  · exact ⟨s₁, rfl, rfl⟩
  · exact h s₁

/-! ### The two halves of a run -/

/-- What a run says of a diagram before it generates from it. -/
def announce (render : Renderer) (verbose : Bool) (st : Settings) (d : Diagram) :
    Running Unit := do
  printLine verbose
    ("Loaded " ++ Nat.repr d.classes.length ++ " classes and " ++
      Nat.repr d.relationships.length ++ " relationships from " ++ st.schemaFile.text)
  (Index.ofDiagram d).dangling.forM fun r => warnLine (danglingWarning r)
  (keylessClasses d st.parameters render).forM fun c => warnLine (keylessWarning c)

/-- A project is packaged by a run. -/
def packagePrepared (st : Settings) (project : Project) : Running Unit :=
  ExceptT.mk do return (← (package st project).run).mapError Failure.packaging

/-- A project is packaged by a run that says so. -/
def deliver (verbose : Bool) (st : Settings) (project : Project) : Running Unit := do
  project.files.forM fun f => printLine verbose ("  " ++ f.path.text)
  packagePrepared st project
  printLine verbose
    ("Generated " ++ Nat.repr project.size ++ " files into " ++ st.destination.text)

/-- What a run does with a diagram in its normal form. -/
def runDiagram (render : Renderer) (verbose : Bool) (st : Settings) (d : Diagram) :
    Running Unit :=
  match d.validate with
  | .error e => throw (.invalidDiagram st.schemaFile e)
  | .ok () =>
    announce render verbose st d >>= fun _ =>
      match generate d st.parameters render with
      | .error e => throw (.generation e)
      | .ok project => deliver verbose st project

theorem runRendering_eq (render : Renderer) (verbose : Bool) (st : Settings) :
    (runRendering render verbose st : Running Unit) =
      loadDiagram st.schemaFile >>= fun d => runDiagram render verbose st d.normalize := by
  rw [runRendering]
  congr
  funext d
  dsimp only
  rw [runDiagram]
  cases d.normalize.validate with
  | error e => rfl
  | ok u =>
    cases u
    simp only [announce, bind_assoc]
    rfl

theorem run_loadDiagram (path : Path) (s : Session) :
    (loadDiagram path : Running Diagram).run.run s = (readDiagram path s.files, s) := by
  rw [loadDiagram, Session.runExcept_bind, readDiagram]
  have hread : (orFail (.readingDiagram path) (Storage.readText path) : Running String).run.run s =
      ((s.files.readText path).mapError (.readingDiagram path), s) := rfl
  rw [hread]
  cases s.files.readText path with
  | error e => rfl
  | ok text =>
    dsimp only [Except.mapError, Except.bind, bind]
    cases Diagram.parse text <;> rfl

theorem quiet_announce (render : Renderer) (verbose : Bool) (st : Settings) (d : Diagram) :
    Quiet (announce render verbose st d) := by
  refine .bind (quiet_printLine _ _) (.bind (quiet_forM ?_ _) (quiet_forM ?_ _))
  · exact fun r => quiet_warnLine _
  · exact fun c => quiet_warnLine _

theorem run_deliver (verbose : Bool) (st : Settings) (project : Project) (s : Session) :
    ∃ s₁ s', s₁.files = s.files ∧
      s'.files = ((package st project : Packing Unit).run.run s₁).2.files ∧
      (deliver verbose st project).run.run s =
        (((package st project : Packing Unit).run.run s₁).1.mapError .packaging, s') := by
  have hlist : Quiet (project.files.forM fun f => printLine verbose ("  " ++ f.path.text)) :=
    quiet_forM (fun _ => quiet_printLine _ _) _
  obtain ⟨s₁, hfiles, hrun⟩ := hlist.run_bind (fun _ => packagePrepared st project >>= fun _ =>
    printLine verbose
      ("Generated " ++ Nat.repr project.size ++ " files into " ++ st.destination.text)) s
  obtain ⟨s', hlast, hfiles'⟩ := (quiet_printLine verbose
    ("Generated " ++ Nat.repr project.size ++ " files into " ++ st.destination.text)).run_bind_last
      (x := packagePrepared st project) s₁
  exact ⟨s₁, s', hfiles, hfiles', hrun.trans hlast⟩

/-- A diagram that is not accepted or cannot be generated from ends the run. -/
theorem runDiagram_of_error {render : Renderer} {verbose : Bool} {st : Settings} {d : Diagram}
    {e : Failure} (h : generateValid render st d = .error e) (s : Session) :
    ∃ s', (runDiagram render verbose st d).run.run s = (.error e, s') ∧ s'.files = s.files := by
  rw [generateValid] at h
  rw [runDiagram]
  cases hvalid : d.validate with
  | error cause =>
    rw [hvalid] at h
    cases h
    exact ⟨s, rfl, rfl⟩
  | ok u =>
    rw [hvalid] at h
    obtain ⟨s₁, hfiles, hrun⟩ := (quiet_announce render verbose st d).run_bind (fun _ =>
      match generate d st.parameters render with
      | .error e => throw (.generation e)
      | .ok project => deliver verbose st project) s
    cases hgenerate : generate d st.parameters render with
    | error cause =>
      rw [hgenerate] at h hrun
      cases h
      exact ⟨s₁, hrun, hfiles⟩
    | ok project =>
      rw [hgenerate] at h
      cases h

theorem runDiagram_of_ok {render : Renderer} {verbose : Bool} {st : Settings} {d : Diagram}
    {project : Project} (h : generateValid render st d = .ok project) (s : Session) :
    ∃ s₁ s', s₁.files = s.files ∧
      s'.files = ((package st project : Packing Unit).run.run s₁).2.files ∧
      (runDiagram render verbose st d).run.run s =
        (((package st project : Packing Unit).run.run s₁).1.mapError .packaging, s') := by
  simp only [generateValid, bind_eq_ok_iff, mapError_eq_ok_iff] at h
  obtain ⟨⟨⟩, hvalid, hgenerate⟩ := h
  obtain ⟨s₁, hfiles, hrun⟩ := (quiet_announce render verbose st d).run_bind (fun _ =>
    match generate d st.parameters render with
    | .error e => throw (.generation e)
    | .ok project => deliver verbose st project) s
  obtain ⟨s₂, s', hfiles₂, hfiles', hdeliver⟩ := run_deliver verbose st project s₁
  rw [hgenerate] at hrun
  refine ⟨s₂, s', hfiles₂.trans hfiles, hfiles', ?_⟩
  rw [runDiagram, hvalid, hgenerate]
  exact hrun.trans hdeliver

/-- A run that has no project to package ends without touching a file. -/
theorem runRendering_of_prepare_error {render : Renderer} {st : Settings} {s : Session}
    {e : Failure} (h : prepare render st s.files = .error e) (verbose : Bool) :
    ∃ s', (runRendering render verbose st : Running Unit).run.run s = (.error e, s') ∧
      s'.files = s.files := by
  rw [runRendering_eq, Session.runExcept_bind, run_loadDiagram]
  rw [prepare] at h
  cases hread : readDiagram st.schemaFile s.files with
  | error cause =>
    rw [hread] at h
    cases h
    exact ⟨s, rfl, rfl⟩
  | ok d =>
    rw [hread] at h
    exact runDiagram_of_error h s

/-- A run that has a project to package does to the files what packaging it does. -/
theorem runRendering_of_prepare_ok {render : Renderer} {st : Settings} {s : Session}
    {project : Project} (h : prepare render st s.files = .ok project) (verbose : Bool) :
    ∃ s₁ s', s₁.files = s.files ∧
      s'.files = ((package st project : Packing Unit).run.run s₁).2.files ∧
      (runRendering render verbose st : Running Unit).run.run s =
        (((package st project : Packing Unit).run.run s₁).1.mapError .packaging, s') := by
  rw [runRendering_eq, Session.runExcept_bind, run_loadDiagram]
  rw [prepare, bind_eq_ok_iff] at h
  obtain ⟨d, hread, hgenerate⟩ := h
  rw [hread]
  exact runDiagram_of_ok hgenerate s

/-- The form in which the settings want the output. -/
def Settings.form (st : Settings) : OutputForm :=
  if st.archive then .archive st.parameters.artifactId else .directory

theorem package_eq (st : Settings) (project : Project) :
    (package st project : Packing Unit) =
      st.form.pack st.overwrite project st.destination := by
  rw [package, Settings.form, Settings.destination]
  split_ifs <;> rfl

/-- What a run comes to: there is no project to package and no file is touched, or the run does to
the files what packaging the project does. -/
theorem runRendering_cases {render : Renderer} {verbose : Bool} {st : Settings} {s s' : Session}
    {result : Except Failure Unit}
    (hrun : (runRendering render verbose st : Running Unit).run.run s = (result, s')) :
    (∃ e, prepare render st s.files = .error e ∧ result = .error e ∧ s'.files = s.files) ∨
      ∃ project packed s₁ s₂, prepare render st s.files = .ok project ∧ s₁.files = s.files ∧
        (st.form.pack st.overwrite project st.destination).outcome s₁ = (packed, s₂) ∧
        result = packed.mapError .packaging ∧ s'.files = s₂.files := by
  cases hprepare : prepare render st s.files with
  | error e =>
    obtain ⟨s'', hrun', hfiles⟩ := runRendering_of_prepare_error hprepare verbose
    cases hrun.symm.trans hrun'
    exact .inl ⟨e, rfl, rfl, hfiles⟩
  | ok project =>
    obtain ⟨s₁, s'', hfiles, hfiles', hrun'⟩ :=
      runRendering_of_prepare_ok hprepare verbose
    cases hrun.symm.trans hrun'
    rw [package_eq] at hfiles' ⊢
    exact .inr ⟨project, _, s₁, _, rfl, hfiles, rfl, rfl, hfiles'⟩

/-! ### Direct use -/

/-- **The normal form can be taken first or not.** A normal form is its own normal form, so a
diagram and its normal form give the same project under every renderer, or fail in the same way. A
run takes the normal form before it generates; it does all the same as if it generated from the
diagram as it was read. -/
theorem normalForm_interchangeable (d : Diagram) (p : Parameters) (render : Renderer)
    (verbose : Bool) (st : Settings) :
    d.normalize.normalize = d.normalize ∧
      generate d.normalize p render = generate d p render ∧
      (runRendering render verbose st : Running Unit) =
        loadDiagram st.schemaFile >>= fun read =>
          match read.normalize.validate with
          | .error e => throw (.invalidDiagram st.schemaFile e)
          | .ok () =>
            announce render verbose st read.normalize >>= fun _ =>
              match generate read st.parameters render with
              | .error e => throw (.generation e)
              | .ok project => deliver verbose st project := by
  refine ⟨d.normalize_normalize, generate_normalize d p render, ?_⟩
  rw [runRendering_eq]
  congr
  funext read
  rw [runDiagram, generate_normalize]

end Scaffold

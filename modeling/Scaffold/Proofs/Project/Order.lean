import Scaffold.Proofs.Entity.Correspondence
import Scaffold.Proofs.Entity.SharedKey
import Scaffold.Proofs.Project.Sequence

/-!
# The order of the classes

Where the classes of a diagram can be told apart, it makes no difference in which order they are
declared. Every look-up finds the same class, so every class gets the same contexts and the same
four files, and whether their paths are apart is a question about all of them at once. The order of
the classes is the order of their files and nothing else.

The renderer matters here: one that remembers what it was asked may answer differently when it is
asked in another order. The built-in one does not.

## Main definitions

* `Step.file`: the file of a step in the built-in sources.

## Main results

* `Diagram.Unambiguous.agree_of_perm`: the order of the classes does not matter to an index.
* `generate_builtinRenderer`: what the built-in renderer makes of a diagram.
* `generate_perm`: the order of the classes only shows in the order of the files.
-/

namespace Scaffold

/-! ### Looking up -/

/-- Where keys are different, the order of a list does not matter for finding one. -/
theorem find?_key_perm {α : Type} {key : α → String} {l l' : List α} (hperm : l.Perm l')
    (h : (l.map key).Nodup) (k : String) :
    l.find? (fun a => key a == k) = l'.find? (fun a => key a == k) := by
  have h' : (l'.map key).Nodup := (hperm.map key).nodup_iff.mp h
  apply Option.ext
  intro a
  rw [find?_key_eq_some_iff h, find?_key_eq_some_iff h', hperm.mem_iff]

namespace Diagram

variable {d d' : Diagram}

theorem Unambiguous.of_perm (h : d.Unambiguous) (hclasses : d'.classes.Perm d.classes) :
    d'.Unambiguous where
  ids := (hclasses.map ClassBox.id).nodup_iff.mpr h.ids
  entities := (hclasses.map ClassBox.entity).nodup_iff.mpr h.entities

/-- The order of the classes does not matter to an index. -/
theorem Unambiguous.agree_of_perm (h : d.Unambiguous) (hclasses : d'.classes.Perm d.classes)
    (hrelationships : d'.relationships = d.relationships) :
    (Index.ofDiagram d').Agree (Index.ofDiagram d) := by
  have hids : ∀ id, (Index.ofDiagram d').findId? id = (Index.ofDiagram d).findId? id := by
    intro id
    rw [Index.findId?_ofDiagram, Index.findId?_ofDiagram]
    exact find?_key_perm hclasses (h.of_perm hclasses).ids id
  constructor
  · intro entity
    rw [Index.findEntity?_ofDiagram, Index.findEntity?_ofDiagram]
    exact find?_key_perm hclasses (h.of_perm hclasses).entities entity
  · intro c
    refine Index.relations_congr (fun r => ?_) ?_ (fun found => ?_)
    · simp only [Index.ends, hids]
    · exact congrArg (List.filterMap _) hrelationships
    · exact congrArg (List.foldl _ found) hrelationships
  · exact hclasses.length_eq

/-- Classes in another order have normal forms in that order. -/
theorem perm_normalize (hclasses : d'.classes.Perm d.classes) :
    d'.normalize.classes.Perm d.normalize.classes :=
  hclasses.map ClassBox.normalize

end Diagram

/-! ### The built-in renderer -/

/-- The file of a step in the built-in sources. -/
def Step.file (s : Step) : ProjectFile :=
  ⟨s.path, s.context.source⟩

/-- The files of a diagram are those of the project as a whole and then those of each class. -/
theorem map_file_generationSteps (d : Diagram) (p : Parameters) :
    (generationSteps d p).map Step.file =
      (projectSteps p).map Step.file ++ d.normalize.classes.flatMap fun c =>
        ((Index.ofDiagram d.normalize).classSteps p.basePackage c).map Step.file := by
  rw [generationSteps_eq, List.map_append, List.map_flatMap]

theorem renders_builtinRenderer (before steps : List Step) :
    Renders builtinRenderer before steps :=
  fun _ step _ _ => ⟨step.context.source, rfl⟩

theorem Drafted.eq_of_builtinRenderer {before steps : List Step} {files : List ProjectFile}
    (h : Drafted builtinRenderer before steps files) : files = steps.map Step.file := by
  induction h with
  | nil => rfl
  | cons hanswer _ ih =>
    cases hanswer
    rw [ih, List.map_cons, Step.file]

section

variable {d : Diagram} {p : Parameters}

/-- The built-in renderer makes one file of every step, if no entity name is repeated. -/
theorem generate_builtinRenderer
    (hroot : (Layout.ofPackage p.basePackage).javaRoot.isInner = true)
    (hentities : (d.normalize.classes.map ClassBox.entity).Nodup) :
    generate d p builtinRenderer = .ok ⟨(generationSteps d p).map Step.file⟩ := by
  have hpasses : Passes builtinRenderer [] (generationSteps d p) :=
    (passes_generationSteps_iff hroot).mpr ⟨renders_builtinRenderer _ _, hentities⟩
  obtain ⟨files, hdrafted⟩ := exists_drafted_iff.mpr (passes_iff.mp hpasses).1
  rw [← hdrafted.eq_of_builtinRenderer]
  exact generate_eq_ok_iff.mpr ⟨hpasses, hdrafted⟩

theorem exists_split_generationSteps (d : Diagram) (p : Parameters) :
    ∃ first bootstrap rest, generationSteps d p = [first] ++ bootstrap :: rest ∧
      first.path.isInner = true ∧
      bootstrap.path = (Layout.ofPackage p.basePackage).bootstrap p.mainClass := by
  have hdescriptor : (Layout.ofPackage p.basePackage).buildDescriptor.isInner = true := by
    change Path.isInner ⟨"pom.xml"⟩ = true
    decide +kernel
  rw [generationSteps, projectSteps]
  exact ⟨_, _, _, List.cons_append, hdescriptor, by dsimp only⟩

/-- If the base package leads outside, then the class that starts the application cannot be
placed. -/
theorem generate_builtinRenderer_outside
    (hroot : (Layout.ofPackage p.basePackage).javaRoot.isInner = false) :
    generate d p builtinRenderer =
      .error (.placing (.outside ((Layout.ofPackage p.basePackage).bootstrap p.mainClass))) := by
  obtain ⟨first, bootstrap, rest, hsteps, hinner, hpath⟩ := exists_split_generationSteps d p
  obtain ⟨htext, hcomponents⟩ := components_bootstrap p
  have hne := (rooted_javaRoot p.basePackage).text_ne
  have houtside := (isInner_of_components hne htext hcomponents).trans hroot
  rw [← hpath] at houtside ⊢
  refine generate_eq_error_iff.mpr ⟨_, _, _, hsteps, ?_, .outside rfl houtside⟩
  exact passes_cons_iff.mpr ⟨not_failsAfter_iff.mpr ⟨⟨_, rfl⟩, hinner, by simp⟩, passes_nil⟩

end

/-! ### Reordered classes -/

/-- **The order of the classes only shows in the order of the files.** If the classes of a diagram
can be told apart, then in whatever order they are declared, the built-in renderer makes the same
files: three for the project, and for each class the same four, which stand where the class stands
in the diagram. Where the base package is none, it may lead outside; then nothing is generated, for
the same reason in every order. -/
theorem generate_perm {d d' : Diagram} (h : d.normalize.Unambiguous)
    (hclasses : d'.classes.Perm d.classes) (hrelationships : d'.relationships = d.relationships)
    (p : Parameters) :
    let classFiles (c : ClassBox) : List ProjectFile :=
      ((Index.ofDiagram d.normalize).classSteps p.basePackage c).map Step.file
    (∃ project project', generate d p builtinRenderer = .ok project ∧
      generate d' p builtinRenderer = .ok project' ∧ project'.files.Perm project.files ∧
      project.files = (projectSteps p).map Step.file ++ d.normalize.classes.flatMap classFiles ∧
      project'.files = (projectSteps p).map Step.file ++ d'.normalize.classes.flatMap classFiles) ∨
    Naming.isPackage p.basePackage = false ∧
      ∃ e, generate d p builtinRenderer = .error e ∧ generate d' p builtinRenderer = .error e := by
  intro classFiles
  have hperm := Diagram.perm_normalize hclasses
  have hagree : (Index.ofDiagram d'.normalize).Agree (Index.ofDiagram d.normalize) :=
    h.agree_of_perm hperm (by rw [Diagram.normalize, Diagram.normalize, hrelationships])
  cases hroot : (Layout.ofPackage p.basePackage).javaRoot.isInner with
  | true =>
    left
    have hfiles : (generationSteps d p).map Step.file =
        (projectSteps p).map Step.file ++ d.normalize.classes.flatMap classFiles :=
      map_file_generationSteps d p
    have hfiles' : (generationSteps d' p).map Step.file =
        (projectSteps p).map Step.file ++ d'.normalize.classes.flatMap classFiles := by
      rw [map_file_generationSteps, hagree.classSteps_eq]
    refine ⟨_, _, generate_builtinRenderer hroot h.entities,
      generate_builtinRenderer hroot (h.of_perm hperm).entities, ?_, hfiles, hfiles'⟩
    dsimp only
    rw [hfiles, hfiles']
    exact (hperm.flatMap_right classFiles).append_left _
  | false =>
    refine .inr ⟨?_, _, generate_builtinRenderer_outside hroot,
      generate_builtinRenderer_outside hroot⟩
    rw [← Bool.not_eq_true]
    intro hpackage
    cases hroot.symm.trans (isInner_javaRoot hpackage)

/-- The diagram of the vehicles with its classes in the opposite order. -/
def reversedVehicles : Diagram :=
  { vehiclesDiagram with classes := vehiclesDiagram.classes.reverse }

theorem generate_perm_vehicles :
    vehiclesDiagram.normalize.Unambiguous ∧
      ∃ project project',
        generate vehiclesDiagram (.standard "com.example" "b") builtinRenderer = .ok project ∧
        generate reversedVehicles (.standard "com.example" "b") builtinRenderer = .ok project' ∧
        project'.files.Perm project.files := by
  have h : vehiclesDiagram.normalize.Unambiguous := ⟨by decide +kernel, by decide +kernel⟩
  have hpackage : Naming.isPackage "com.example" = true := by decide +kernel
  have hclasses : reversedVehicles.classes.Perm vehiclesDiagram.classes := List.reverse_perm _
  refine ⟨h, ?_⟩
  rcases generate_perm h hclasses rfl (.standard "com.example" "b") with
    ⟨project, project', hok, hok', hfiles, -⟩ | ⟨hnot, -⟩
  · exact ⟨project, project', hok, hok', hfiles⟩
  · cases hpackage.symm.trans hnot

end Scaffold

import Scaffold.Naming.Identifier
import Scaffold.Project.Generation
import Scaffold.Proofs.Naming.Characters
import Scaffold.Proofs.Path.Spelling

/-!
# The files of a generated project

A project that is generated has one file for every step, in the order of the steps, and no two of
its paths spell the same. Two classes whose entities have the same name would have theirs in the
same places, so there are none.

If the base package is a package name, then the paths are joined from names alone: those of the
layout, the segments of the package, and the names of classes, which have no character in them that
means something in a path. So the files lie at different locations.

## Main definitions

* `layerPlaces`: the directory of each layer, and what follows the entity name in it.

## Main results

* `runSteps_ok`: the files that the steps give.
* `entities_nodup_of_generate`: no two classes have the same entity name.
* `joined_of_mem_generationSteps`: the paths of the steps are joined from names.
* `locations_nodup_of_generate`: the files of a project lie at different locations.
-/

namespace Scaffold

open FileSystem (isName)

/-! ### Steps -/

theorem generationSteps_eq (d : Diagram) (p : Parameters) :
    generationSteps d p = projectSteps p ++
      d.normalize.classes.flatMap ((Index.ofDiagram d.normalize).classSteps p.basePackage) :=
  rfl

/-- A file is added behind the others, and its path is none of theirs. -/
theorem Project.add_eq_ok {t t' : Project} {path : Path} {content : String}
    (h : t.add path content = .ok t') :
    path.isInner = true ∧ (∀ f ∈ t.files, f.path.same path = false) ∧
      t'.files = t.files ++ [⟨path, content⟩] := by
  rw [add] at h
  split_ifs at h with hinner hfound
  cases h
  refine ⟨by simpa using hinner, fun f hf => ?_, rfl⟩
  have hnone : t.find? path = none := by simpa using hfound
  simpa using List.find?_eq_none.mp hnone f hf

theorem takeStep_ok {render : Renderer} {rendered : List Context} {t t' : Project} {step : Step}
    (h : takeStep render rendered t step = .ok t') :
    ∃ text, t.add step.path text = .ok t' := by
  rw [takeStep] at h
  split at h
  · cases h
  · next text _ =>
    refine ⟨text, ?_⟩
    cases hadd : t.add step.path text with
    | error e =>
      rw [hadd] at h
      cases h
    | ok t'' =>
      rw [hadd] at h
      cases h
      rfl

/-- No two files of a project spell the same path, and each lies inside the project. -/
structure Project.WellPlaced (t : Project) : Prop where
  inner : ∀ f ∈ t.files, f.path.isInner = true
  apart : t.files.Pairwise fun f g => f.path.same g.path = false

theorem Project.wellPlaced_empty : Project.empty.WellPlaced :=
  ⟨by simp [empty], List.Pairwise.nil⟩

theorem Project.WellPlaced.add {t t' : Project} {path : Path} {content : String}
    (ht : t.WellPlaced) (h : t.add path content = .ok t') : t'.WellPlaced := by
  obtain ⟨hinner, hapart, hfiles⟩ := Project.add_eq_ok h
  constructor
  · intro f hf
    rw [hfiles, List.mem_append, List.mem_singleton] at hf
    rcases hf with hf | rfl
    · exact ht.inner f hf
    · exact hinner
  · rw [hfiles, List.pairwise_append]
    refine ⟨ht.apart, List.pairwise_singleton _ _, fun f hf g hg => ?_⟩
    rw [List.mem_singleton.mp hg]
    exact hapart f hf

/-- The project that some steps give has one more file for each of them. -/
theorem runSteps_ok {render : Renderer} {rendered : List Context} {t t' : Project}
    {steps : List Step} (ht : t.WellPlaced) (h : runSteps render rendered t steps = .ok t') :
    t'.WellPlaced ∧
      t'.files.map ProjectFile.path = t.files.map ProjectFile.path ++ steps.map Step.path := by
  induction steps generalizing rendered t with
  | nil =>
    cases h
    exact ⟨ht, by simp⟩
  | cons step steps ih =>
    rw [runSteps] at h
    split at h
    · cases h
    · next next htake =>
      obtain ⟨text, hadd⟩ := takeStep_ok htake
      obtain ⟨hplaced, hpaths⟩ := ih (ht.add hadd) h
      refine ⟨hplaced, ?_⟩
      rw [hpaths, (Project.add_eq_ok hadd).2.2]
      simp

theorem generate_ok {d : Diagram} {p : Parameters} {render : Renderer} {project : Project}
    (h : generate d p render = .ok project) :
    project.WellPlaced ∧
      project.files.map ProjectFile.path = (generationSteps d p).map Step.path := by
  obtain ⟨hplaced, hpaths⟩ := runSteps_ok Project.wellPlaced_empty h
  exact ⟨hplaced, by simpa [Project.empty] using hpaths⟩

/-- No two steps of a generation that goes through have the same path. -/
theorem paths_nodup_of_generate {d : Diagram} {p : Parameters} {render : Renderer}
    {project : Project} (h : generate d p render = .ok project) :
    ((generationSteps d p).map Step.path).Nodup := by
  obtain ⟨hplaced, hpaths⟩ := generate_ok h
  rw [← hpaths, List.Nodup, List.pairwise_map]
  refine hplaced.apart.imp fun hapart heq => ?_
  rw [heq, Path.same, beq_self_eq_true] at hapart
  cases hapart

/-- No two classes of a project that is generated have the same entity name. -/
theorem entities_nodup_of_generate {d : Diagram} {p : Parameters} {render : Renderer}
    {project : Project} (h : generate d p render = .ok project) :
    (d.normalize.classes.map ClassBox.entity).Nodup := by
  have hpaths := paths_nodup_of_generate h
  rw [generationSteps, List.map_append, List.map_flatMap] at hpaths
  have hclasses := (List.pairwise_flatMap.mp (List.nodup_append.mp hpaths).2.1).2
  rw [List.Nodup, List.pairwise_map]
  refine hclasses.imp fun {c c'} hapart heq => ?_
  refine hapart _ (List.mem_cons_self) _ (List.mem_cons_self) ?_
  rw [heq]

/-! ### Paths of names -/

section

variable {s : String}

theorem isName_of_length (h : 2 < s.toList.length) : isName s = true := by
  have hne : ∀ other : String, other.toList.length ≤ 2 → s ≠ other := by
    rintro other hother rfl
    omega
  simp [isName, hne "." (by decide), hne ".." (by decide)]

/-- What means something in a path is not in the name of a class. -/
theorem not_slash_of_isPlain {c : Char} (h : Unicode.isPlain c = true) : c ≠ '/' ∧ c ≠ '\\' := by
  constructor
  · rintro rfl
    exact absurd h (by decide +kernel)
  · rintro rfl
    exact absurd h (by decide +kernel)

/-- The name of a file that has the name of a class in it. -/
theorem isPlainName_fileName {name suffix : String}
    (hname : ∀ c ∈ name.toList, Unicode.isPlain c = true)
    (hsuffix : (suffix.toList.all fun c => c != '/' && c != '\\') = true)
    (hlong : 2 < suffix.toList.length) : Path.IsPlainName (name ++ suffix) := by
  have hlength : 2 < (name ++ suffix).toList.length := by
    rw [String.toList_append, List.length_append]
    omega
  have hchars : ∀ c ∈ (name ++ suffix).toList, c ≠ '/' ∧ c ≠ '\\' := by
    intro c hc
    rw [String.toList_append, List.mem_append] at hc
    rcases hc with hc | hc
    · exact not_slash_of_isPlain (hname c hc)
    · simpa using List.all_eq_true.mp hsuffix c hc
  refine ⟨?_, isName_of_length hlength, fun hc => (hchars _ hc).1 rfl,
    fun hc => (hchars _ hc).2 rfl⟩
  intro hempty
  rw [hempty] at hlength
  exact absurd hlength (by decide)

/-- A segment of a package name is a name. -/
theorem isPlainName_segment {segment : List Char} (h : Naming.isSegment segment = true) :
    Path.IsPlainName (String.ofList segment) := by
  have hchars : segment ≠ [] ∧ ∀ c ∈ segment, c.isAlphanum = true ∨ c = '_' := by
    cases segment with
    | nil => cases h
    | cons d rest =>
      rw [Naming.isSegment, Bool.and_eq_true, List.all_eq_true] at h
      refine ⟨List.cons_ne_nil _ _, fun c hc => ?_⟩
      rcases List.mem_cons.mp hc with rfl | hc
      · have hstart := h.1
        rw [Naming.isSegmentStart, Bool.or_eq_true, beq_iff_eq] at hstart
        exact hstart.imp_left fun halpha => by simp [Char.isAlphanum, halpha]
      · simpa [Naming.isSegmentRest] using h.2 c hc
  have hnot : ∀ d : Char, d.isAlphanum = false → d ≠ '_' → d ∉ segment := by
    intro d hd hd' hmem
    rcases hchars.2 d hmem with hc | hc
    · rw [hd] at hc
      cases hc
    · exact hd' hc
  refine ⟨by simpa using hchars.1, ?_, ?_, ?_⟩
  · have hne : ∀ rest : List Char, String.ofList segment ≠ String.ofList ('.' :: rest) := by
      intro rest heq
      refine hnot '.' (by decide) (by decide) ?_
      rw [String.ofList_injective heq]
      exact List.mem_cons_self
    rw [isName, Bool.and_eq_true, bne_iff_ne, bne_iff_ne]
    exact ⟨hne [], hne ['.']⟩
  · rw [String.toList_ofList]
    exact hnot '/' (by decide) (by decide)
  · rw [String.toList_ofList]
    exact hnot '\\' (by decide) (by decide)

end

theorem joined_javaRoot {basePackage : String} (h : Naming.isPackage basePackage = true) :
    (Layout.ofPackage basePackage).javaRoot.Joined := by
  have hjava : Path.Joined ⟨"src/main/java"⟩ := by
    have hsrc : Path.Joined ⟨"src"⟩ := .name (by decide +kernel)
    exact hsrc.foldl ["main", "java"] (by decide +kernel)
  have hsegments : ∀ n ∈ (Text.fields (· == '.') basePackage.toList).map String.ofList,
      Path.IsPlainName n := by
    intro n hn
    obtain ⟨segment, hsegment, rfl⟩ := List.mem_map.mp hn
    exact isPlainName_segment (List.all_eq_true.mp h segment (List.mem_filter.mp hsegment).1)
  have hjoined := hjava.foldl _ hsegments
  rwa [List.foldl_map] at hjoined

/-! ### Where the steps lead -/

/-- The layers of a class, each with its directory and with what follows the entity name in the
names of its files. -/
def layerPlaces : List (Template × String × String) :=
  [(.entity, "model", ".java"),
   (.repository, "repository", "Repository.java"),
   (.service, "service", "Service.java"),
   (.controller, "controller", "Controller.java")]

/-- The file of a layer lies under the entity name in the directory of the layer. -/
theorem path_of_mem_classSteps {x : Index} {basePackage : String} {c : ClassBox} {s : Step}
    (hs : s ∈ x.classSteps basePackage c) :
    ∃ directory suffix, (s.context.template, directory, suffix) ∈ layerPlaces ∧
      s.path = ((Layout.ofPackage basePackage).javaRoot.join ⟨directory⟩).join
        ⟨c.entity ++ suffix⟩ := by
  simp only [Index.classSteps, List.mem_cons, List.not_mem_nil, or_false] at hs
  rcases hs with rfl | rfl | rfl | rfl <;> dsimp only [Context.template]
  · exact ⟨"model", ".java", by decide, by rw [Layout.entity]⟩
  · exact ⟨"repository", "Repository.java", by decide, by rw [Layout.repository]⟩
  · exact ⟨"service", "Service.java", by decide, by rw [Layout.service]⟩
  · exact ⟨"controller", "Controller.java", by decide, by rw [Layout.controller]⟩

/-- The directory of a layer and the name of a file in it are names. -/
theorem isPlainName_of_mem_layerPlaces {template : Template} {directory suffix : String}
    (h : (template, directory, suffix) ∈ layerPlaces) (c : ClassBox) :
    Path.IsPlainName directory ∧ Path.IsPlainName (c.entity ++ suffix) := by
  have htable : ∀ row ∈ layerPlaces, Path.IsPlainName row.2.1 ∧
      (row.2.2.toList.all fun c => c != '/' && c != '\\') = true ∧ 2 < row.2.2.toList.length := by
    decide +kernel
  obtain ⟨hdirectory, hsuffix, hlong⟩ := htable _ h
  exact ⟨hdirectory, isPlainName_fileName (Naming.isPlain_of_mem_entityName c.name) hsuffix hlong⟩

theorem isPlain_of_mem_mainClass (p : Parameters) :
    ∀ c ∈ p.mainClass.toList, Unicode.isPlain c = true := by
  have hfixed : "Application".toList.all Unicode.isPlain = true := by decide +kernel
  intro c hc
  rw [Parameters.mainClass, String.toList_append, List.mem_append] at hc
  exact hc.elim (Naming.isPlain_of_mem_entityName _ c) (List.all_eq_true.mp hfixed c)

/-- The name of the file of the class that starts the application. -/
theorem isPlainName_mainClass (p : Parameters) : Path.IsPlainName (p.mainClass ++ ".java") :=
  isPlainName_fileName (isPlain_of_mem_mainClass p) (by decide +kernel) (by decide +kernel)

/-- The paths of a project are joined from names. -/
theorem joined_of_mem_generationSteps {d : Diagram} {p : Parameters}
    (hpackage : Naming.isPackage p.basePackage = true) :
    ∀ step ∈ generationSteps d p, step.path.Joined := by
  have hroot := joined_javaRoot hpackage
  intro step hstep
  rw [generationSteps, List.mem_append, List.mem_flatMap] at hstep
  rcases hstep with hstep | ⟨c, -, hstep⟩
  · rw [projectSteps] at hstep
    simp only [List.mem_cons, List.not_mem_nil, or_false] at hstep
    rcases hstep with rfl | rfl | rfl
    · show Path.Joined ⟨"pom.xml"⟩
      exact .name (by decide +kernel)
    · dsimp only
      rw [Layout.bootstrap]
      exact hroot.join (.name (isPlainName_mainClass p))
    · show Path.Joined ⟨"src/main/resources/application.properties"⟩
      have hsrc : Path.Joined ⟨"src"⟩ := .name (by decide +kernel)
      exact hsrc.foldl ["main", "resources", "application.properties"] (by decide +kernel)
  · obtain ⟨directory, suffix, hplace, hpath⟩ := path_of_mem_classSteps hstep
    obtain ⟨hdirectory, hfile⟩ := isPlainName_of_mem_layerPlaces hplace c
    rw [hpath]
    exact (hroot.join (.name hdirectory)).join (.name hfile)

/-- The paths of the files of a project are joined from names. -/
theorem joined_of_generate {d : Diagram} {p : Parameters} {render : Renderer} {project : Project}
    (hpackage : Naming.isPackage p.basePackage = true) (h : generate d p render = .ok project) :
    ∀ f ∈ project.files, f.path.Joined := by
  intro f hf
  have hmem : f.path ∈ project.files.map ProjectFile.path := List.mem_map_of_mem hf
  rw [(generate_ok h).2] at hmem
  obtain ⟨step, hstep, hpath⟩ := List.mem_map.mp hmem
  rw [← hpath]
  exact joined_of_mem_generationSteps hpackage step hstep

/-- The paths of the files of a project are made of names. -/
theorem ofNames_of_generate {d : Diagram} {p : Parameters} {render : Renderer} {project : Project}
    (hpackage : Naming.isPackage p.basePackage = true) (h : generate d p render = .ok project) :
    ∀ f ∈ project.files, f.path.OfNames :=
  fun f hf => (joined_of_generate hpackage h f hf).ofNames

/-- The files of a project lie at different locations. -/
theorem locations_nodup_of_generate {d : Diagram} {p : Parameters} {render : Renderer}
    {project : Project} (hpackage : Naming.isPackage p.basePackage = true)
    (h : generate d p render = .ok project) :
    (project.files.map (·.path.location)).Nodup := by
  have hnames := ofNames_of_generate hpackage h
  rw [List.Nodup, List.pairwise_map]
  refine (generate_ok h).1.apart.imp_of_mem fun {f g} hf hg hapart heq => ?_
  rw [((hnames f hf).same_iff (hnames g hg)).mpr heq] at hapart
  cases hapart

end Scaffold

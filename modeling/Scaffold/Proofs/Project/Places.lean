import Scaffold.Proofs.Path.Spelling
import Scaffold.Proofs.Project.Generated

/-!
# Where the files of a project lie

The files of the classes lie two names below the directory of the base package: in a directory for
each layer, under the name of the entity with an ending that only depends on the layer. The class
that starts the application lies one name below that directory, and the other two files of the
project lie elsewhere. So two files spell the same path only if they belong to the same layer of two
classes with the same entity name.

Nothing has to be known about the base package for this. It may have slashes in it, and if one of
its segments is an absolute path, then no file can be placed; but segments with dots cannot occur,
and as long as the directory of the package is an inner path, so are all paths.

## Main definitions

* `Step.Apart`: the files of two steps do not spell the same path.

## Main results

* `pairwise_apart_generationSteps_iff`: the files of a project are apart exactly if no two classes
  have the same entity name.
* `isInner_of_mem_generationSteps`: they are inside the project if the base package is.
-/

namespace Scaffold

/-- The files of two steps do not spell the same path. -/
def Step.Apart (s s' : Step) : Prop :=
  s.path.same s'.path = false

/-! ### Names behind a directory -/

section

variable {p : Path} {n : String}

/-- A path that grows by one name is inside exactly if the path in front of the name is. -/
theorem isInner_of_components {q : Path} (hp : p.text ≠ "") (hq : q.text ≠ "")
    (h : q.components = p.components ++ [.name n]) : q.isInner = p.isInner := by
  have hp' : (p.text != "") = true := bne_iff_ne.mpr hp
  have hq' : (q.text != "") = true := bne_iff_ne.mpr hq
  simp [Path.isInner, hp', hq', h, Component.isInner]

end

/-! ### The directory of the base package -/

/-- The directory in which every base package lies. -/
def javaDirectory : List Component :=
  [.name "src", .name "main", .name "java"]

/-- A path that is absolute or starts in the directory of all packages. -/
structure Path.Rooted (p : Path) : Prop where
  text_ne : p.text ≠ ""
  start : p.isAbsolute = true ∨ javaDirectory <+: p.components

theorem Path.Rooted.join {p : Path} (h : p.Rooted) (q : Path) : (p.join q).Rooted where
  text_ne := Path.text_join_ne h.text_ne q
  start := by
    cases hq : q.isAbsolute with
    | true =>
      left
      rw [Path.join, if_pos hq, hq]
    | false =>
      rw [isAbsolute_join hq, Path.components_join h.text_ne hq]
      exact h.start.imp_right fun hprefix => hprefix.trans (List.prefix_append _ _)

theorem rooted_javaRoot (basePackage : String) :
    (Layout.ofPackage basePackage).javaRoot.Rooted := by
  have hfold : ∀ (segments : List (List Char)) (p : Path), p.Rooted →
      (segments.foldl (fun p segment => p.join ⟨String.ofList segment⟩) p).Rooted := by
    intro segments
    induction segments with
    | nil => exact fun p hp => hp
    | cons segment segments ih => exact fun p hp => ih _ (hp.join _)
  exact hfold _ _ ⟨by decide, .inr (by decide +kernel)⟩

/-- The directory of a package that leads inside starts in the directory of all packages. -/
theorem javaDirectory_prefix {basePackage : String}
    (h : (Layout.ofPackage basePackage).javaRoot.isInner = true) :
    javaDirectory <+: (Layout.ofPackage basePackage).javaRoot.components := by
  refine (rooted_javaRoot basePackage).start.resolve_left ?_
  rw [(Path.not_mem_segments_of_isInner h).1]
  exact Bool.false_ne_true

/-- The directory of a package leads inside if its name is a package name. -/
theorem isInner_javaRoot {basePackage : String} (h : Naming.isPackage basePackage = true) :
    (Layout.ofPackage basePackage).javaRoot.isInner = true := by
  have hne := (rooted_javaRoot basePackage).text_ne
  simp [Path.isInner, hne, (joined_javaRoot h).ofNames.components_eq, Component.isInner]

/-! ### The files of a class -/

section

variable {x x' : Index} {basePackage : String} {c c' : ClassBox} {s s' : Step}

/-- The file of a layer lies two names below the directory of the package. -/
theorem components_of_mem_classSteps (hs : s ∈ x.classSteps basePackage c) :
    ∃ directory suffix, (s.context.template, directory, suffix) ∈ layerPlaces ∧
      s.path.text ≠ "" ∧
      s.path.components = (Layout.ofPackage basePackage).javaRoot.components ++
        [.name directory, .name (c.entity ++ suffix)] := by
  obtain ⟨directory, suffix, hplace, hpath⟩ := path_of_mem_classSteps hs
  obtain ⟨hdirectory, hfile⟩ := isPlainName_of_mem_layerPlaces hplace c
  have hroot := (rooted_javaRoot basePackage).text_ne
  have hlayer := Path.text_join_ne hroot ⟨directory⟩
  refine ⟨directory, suffix, hplace, ?_, ?_⟩
  · rw [hpath]
    exact Path.text_join_ne hlayer _
  · rw [hpath, Path.components_join_name hlayer hfile, Path.components_join_name hroot hdirectory,
      List.append_assoc, List.singleton_append]

/-- Two files of classes spell the same path exactly if they are of the same layer and the entity
names are the same. -/
theorem same_iff_of_mem_classSteps (hs : s ∈ x.classSteps basePackage c)
    (hs' : s' ∈ x'.classSteps basePackage c') :
    s.path.same s'.path = true ↔
      c.entity = c'.entity ∧ s.context.template = s'.context.template := by
  obtain ⟨directory, suffix, hplace, -, hcomponents⟩ := components_of_mem_classSteps hs
  obtain ⟨directory', suffix', hplace', -, hcomponents'⟩ := components_of_mem_classSteps hs'
  have htable : ∀ a ∈ layerPlaces, ∀ b ∈ layerPlaces, a.2.1 = b.2.1 ∨ a.1 = b.1 → a = b := by
    decide
  rw [Path.same, beq_iff_eq, hcomponents, hcomponents', List.append_cancel_left_eq]
  simp only [List.cons.injEq, Component.name.injEq, and_true]
  constructor
  · rintro ⟨hdirectory, hname⟩
    obtain ⟨htemplate, -, rfl⟩ := Prod.mk.injEq .. ▸ htable _ hplace _ hplace' (.inl hdirectory)
    exact ⟨(String.append_left_inj suffix).mp hname, htemplate⟩
  · rintro ⟨hentity, htemplate⟩
    have hrow := htable _ hplace _ hplace' (.inr htemplate)
    simp only [Prod.mk.injEq] at hrow
    exact ⟨hrow.2.1, by rw [hentity, hrow.2.2]⟩

theorem pairwise_apart_classSteps (x : Index) (basePackage : String) (c : ClassBox) :
    (x.classSteps basePackage c).Pairwise Step.Apart := by
  have htemplates : (x.classSteps basePackage c).Pairwise
      fun s s' => s.context.template ≠ s'.context.template := by
    simp [Index.classSteps, Context.template]
  refine htemplates.imp_of_mem fun hs hs' hne => ?_
  rw [Step.Apart, ← Bool.not_eq_true, same_iff_of_mem_classSteps hs hs']
  exact fun hsame => hne hsame.2

/-- The files of all classes are apart exactly if no two of them have the same entity name. -/
theorem pairwise_apart_flatMap_iff (x : Index) (basePackage : String) (classes : List ClassBox) :
    (classes.flatMap (x.classSteps basePackage)).Pairwise Step.Apart ↔
      (classes.map ClassBox.entity).Nodup := by
  rw [List.pairwise_flatMap, List.Nodup, List.pairwise_map]
  constructor
  · rintro ⟨-, hclasses⟩
    refine hclasses.imp fun {c c'} hapart hentity => ?_
    have hfirst := hapart _ List.mem_cons_self _ List.mem_cons_self
    rw [Step.Apart, ← Bool.not_eq_true,
      same_iff_of_mem_classSteps List.mem_cons_self List.mem_cons_self] at hfirst
    exact hfirst ⟨hentity, rfl⟩
  · refine fun hclasses => ⟨fun c _ => pairwise_apart_classSteps x basePackage c, ?_⟩
    refine hclasses.imp fun {c c'} hentity s hs s' hs' => ?_
    rw [Step.Apart, ← Bool.not_eq_true, same_iff_of_mem_classSteps hs hs']
    exact fun hsame => hentity hsame.1

end

/-! ### All files -/

section

variable {d : Diagram} {p : Parameters} {s s' : Step}

/-- The class that starts the application lies one name below the directory of the package. -/
theorem components_bootstrap (p : Parameters) :
    ((Layout.ofPackage p.basePackage).bootstrap p.mainClass).text ≠ "" ∧
      ((Layout.ofPackage p.basePackage).bootstrap p.mainClass).components =
        (Layout.ofPackage p.basePackage).javaRoot.components ++
          [.name (p.mainClass ++ ".java")] := by
  have hroot := (rooted_javaRoot p.basePackage).text_ne
  exact ⟨Path.text_join_ne hroot _,
    Path.components_join_name hroot (isPlainName_mainClass p)⟩

theorem apart_of_components (h : s.path.components ≠ s'.path.components) : s.Apart s' := by
  rwa [Step.Apart, Path.same, beq_eq_false_iff_ne]

theorem components_buildDescriptor (l : Layout) :
    l.buildDescriptor.components = [.name "pom.xml"] := by
  show Path.components ⟨"pom.xml"⟩ = _
  decide +kernel

theorem components_configuration (l : Layout) :
    l.configuration.components =
      [.name "src", .name "main", .name "resources", .name "application.properties"] := by
  show Path.components ⟨"src/main/resources/application.properties"⟩ = _
  decide +kernel

/-- The three files of the project as a whole are apart. -/
theorem pairwise_apart_projectSteps
    (hroot : (Layout.ofPackage p.basePackage).javaRoot.isInner = true) :
    (projectSteps p).Pairwise Step.Apart := by
  obtain ⟨rest, hrest⟩ := javaDirectory_prefix hroot
  have hbootstrap := (components_bootstrap p).2
  rw [← hrest] at hbootstrap
  simp only [projectSteps, List.pairwise_cons, List.mem_cons, List.not_mem_nil, or_false,
    forall_eq_or_imp, forall_eq, IsEmpty.forall_iff, implies_true, List.Pairwise.nil, and_true]
  refine ⟨⟨apart_of_components ?_, apart_of_components ?_⟩, apart_of_components ?_⟩
  · simp [hbootstrap, components_buildDescriptor, javaDirectory]
  · simp [components_configuration, components_buildDescriptor]
  · simp [hbootstrap, components_configuration, javaDirectory]

/-- The files of the classes are apart from the three files of the project as a whole. -/
theorem apart_projectSteps_classSteps
    (hroot : (Layout.ofPackage p.basePackage).javaRoot.isInner = true) {x : Index} {c : ClassBox}
    (hs : s ∈ projectSteps p) (hs' : s' ∈ x.classSteps p.basePackage c) : s.Apart s' := by
  obtain ⟨rest, hrest⟩ := javaDirectory_prefix hroot
  obtain ⟨directory, suffix, -, -, hcomponents⟩ := components_of_mem_classSteps hs'
  have hbootstrap := (components_bootstrap p).2
  refine apart_of_components ?_
  rw [hcomponents]
  simp only [projectSteps, List.mem_cons, List.not_mem_nil, or_false] at hs
  rcases hs with rfl | rfl | rfl
  · simp [components_buildDescriptor, ← hrest, javaDirectory]
  · simp [hbootstrap]
  · simp [components_configuration, ← hrest, javaDirectory]

/-- The files of a project are inside it if the directory of the base package is. -/
theorem isInner_of_mem_generationSteps
    (hroot : (Layout.ofPackage p.basePackage).javaRoot.isInner = true) :
    ∀ s ∈ generationSteps d p, s.path.isInner = true := by
  have hne := (rooted_javaRoot p.basePackage).text_ne
  intro s hs
  rw [generationSteps, List.mem_append, List.mem_flatMap] at hs
  rcases hs with hs | ⟨c, -, hs⟩
  · obtain ⟨hbootstrap, hcomponents⟩ := components_bootstrap p
    simp only [projectSteps, List.mem_cons, List.not_mem_nil, or_false] at hs
    rcases hs with rfl | rfl | rfl
    · show Path.isInner ⟨"pom.xml"⟩ = true
      decide +kernel
    · have hinner := isInner_of_components hne hbootstrap hcomponents
      dsimp only
      rw [hinner, hroot]
    · show Path.isInner ⟨"src/main/resources/application.properties"⟩ = true
      decide +kernel
  · obtain ⟨directory, suffix, -, hfile, hcomponents⟩ := components_of_mem_classSteps hs
    have hinner := (Bool.and_eq_true_iff.mp hroot).2
    simp [Path.isInner, hfile, hcomponents, hinner, Component.isInner]

/-- The files of a project are apart exactly if no two classes have the same entity name. -/
theorem pairwise_apart_generationSteps_iff
    (hroot : (Layout.ofPackage p.basePackage).javaRoot.isInner = true) :
    (generationSteps d p).Pairwise Step.Apart ↔
      (d.normalize.classes.map ClassBox.entity).Nodup := by
  have hproject := pairwise_apart_projectSteps hroot
  rw [generationSteps, List.pairwise_append, pairwise_apart_flatMap_iff]
  constructor
  · exact fun hapart => hapart.2.1
  · refine fun hentities => ⟨hproject, hentities, fun s hs s' hs' => ?_⟩
    obtain ⟨c, -, hs'⟩ := List.mem_flatMap.mp hs'
    exact apart_projectSteps_classSteps hroot hs hs'

end

end Scaffold

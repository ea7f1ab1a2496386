import Scaffold.Proofs.Naming.Plurals
import Scaffold.Proofs.Project.Order

/-!
# The names under which classes are addressed

The controller of a class takes requests under the resource name of its entity, and an entity
without a parent is stored in the table of that name. Generation makes sure that the classes have
different entities, since each has files of its own. It asks for no more: two classes are addressed
under one name if their field names have one plural in lower case.

## Main definitions

* `Layers.AddressedBy`: the name that the sources of a class use for its instances.

## Main results

* `file_mem_of_generate`: the files of a class are in the project.
* `resources_of_generate`: which classes of a project are addressed under one name.
-/

namespace Scaffold

/-- The contexts of a class have a name for its instances, and its sources use it: the controller
takes requests under it, and the entity, unless it has a parent, is stored in the table of that
name. -/
structure Layers.AddressedBy (l : Layers) (name : String) : Prop where
  named : l.entity.resourceName = name ∧ l.controller.resourceName = name
  mapped : HasLine l.controller.source ("@RequestMapping(\"/api/" ++ name ++ "\")")
  stored : l.entity.parentEntity = none →
    HasLine l.entity.source ("@Table(name = \"" ++ name ++ "\")")

theorem Index.layers_addressedBy (x : Index) (basePackage : String) (c : ClassBox) :
    (x.layers basePackage c).AddressedBy (Naming.resourceName c.entity) where
  named := ⟨rfl, rfl⟩
  mapped := hasLine_textOfLines (by simp [layers, entityLayer])
  stored := by
    intro hparent
    refine hasLine_textOfLines ?_
    rw [Context.Entity.heading, hparent]
    simp [layers, entityLayer]

section

variable {d : Diagram} {p : Parameters} {project : Project} {c : ClassBox}

/-- The built-in renderer makes the file of every step of a class. -/
theorem file_mem_of_generate (h : generate d p builtinRenderer = .ok project)
    (hc : c ∈ d.normalize.classes) {s : Step}
    (hs : s ∈ (Index.ofDiagram d.normalize).classSteps p.basePackage c) :
    s.file ∈ project.files := by
  have hdrafted := (generate_eq_ok_iff.mp h).2
  rw [hdrafted.eq_of_builtinRenderer, map_file_generationSteps]
  exact List.mem_append_right _ (List.mem_flatMap.mpr ⟨c, hc, List.mem_map_of_mem hs⟩)

theorem entity_mem_of_generate (h : generate d p builtinRenderer = .ok project)
    (hc : c ∈ d.normalize.classes) :
    ⟨(Layout.ofPackage p.basePackage).entity c.entity,
      ((Index.ofDiagram d.normalize).layers p.basePackage c).entity.source⟩ ∈ project.files := by
  have hstep : ⟨(Layout.ofPackage p.basePackage).entity c.entity,
      .entity ((Index.ofDiagram d.normalize).layers p.basePackage c).entity⟩ ∈
        (Index.ofDiagram d.normalize).classSteps p.basePackage c := by
    simp [Index.classSteps]
  have hfile := file_mem_of_generate h hc hstep
  simp only [Step.file, Context.source] at hfile
  exact hfile

theorem controller_mem_of_generate (h : generate d p builtinRenderer = .ok project)
    (hc : c ∈ d.normalize.classes) :
    ⟨(Layout.ofPackage p.basePackage).controller c.entity,
      ((Index.ofDiagram d.normalize).layers p.basePackage c).controller.source⟩ ∈
        project.files := by
  have hstep : ⟨(Layout.ofPackage p.basePackage).controller c.entity,
      .controller ((Index.ofDiagram d.normalize).layers p.basePackage c).controller⟩ ∈
        (Index.ofDiagram d.normalize).classSteps p.basePackage c := by
    simp [Index.classSteps]
  have hfile := file_mem_of_generate h hc hstep
  simp only [Step.file, Context.source] at hfile
  exact hfile

end

/-- **Which classes are addressed under one name.** In a project that the built-in renderer makes,
every class has its own entity and controller, whose sources address it under the resource name of
its entity. Different classes have different entities. They have different resource names unless
their field names are the same but for case, or one is spelled with an e behind a final sibilant of
the other, or with ie for a final y of the other that follows a consonant. -/
theorem resources_of_generate {d : Diagram} {p : Parameters} {project : Project}
    (h : generate d p builtinRenderer = .ok project) :
    let layout := Layout.ofPackage p.basePackage
    let layers := (Index.ofDiagram d.normalize).layers p.basePackage
    (∀ c ∈ d.normalize.classes,
      ⟨layout.entity c.entity, (layers c).entity.source⟩ ∈ project.files ∧
      ⟨layout.controller c.entity, (layers c).controller.source⟩ ∈ project.files ∧
      (layers c).AddressedBy (Naming.resourceName c.entity)) ∧
    d.normalize.classes.Pairwise fun a b => a.entity ≠ b.entity ∧
      (Naming.resourceName a.entity = Naming.resourceName b.entity ↔
        Naming.singular a.entity = Naming.singular b.entity ∨
          Naming.Respelled (Naming.singular a.entity) (Naming.singular b.entity) ∨
          Naming.Respelled (Naming.singular b.entity) (Naming.singular a.entity)) := by
  intro layout layers
  refine ⟨fun c hc => ⟨entity_mem_of_generate h hc, controller_mem_of_generate h hc,
    Index.layers_addressedBy _ _ c⟩, ?_⟩
  have hentities := entities_nodup_of_generate h
  rw [List.Nodup, List.pairwise_map] at hentities
  exact hentities.imp fun hne => ⟨hne, Naming.resourceName_eq_iff _ _⟩

/-- Two classes with different singulars and one plural. -/
def townsDiagram : Diagram where
  classes := [.named "1" "city", .named "2" "citie"]
  relationships := []

theorem resources_of_generate_towns :
    ∃ project, generate townsDiagram (.standard "com.example" "b") builtinRenderer = .ok project ∧
      ∃ city citie, townsDiagram.normalize.classes = [city, citie] ∧
        city.entity ≠ citie.entity ∧
        Naming.resourceName city.entity = Naming.resourceName citie.entity := by
  have hok := generate_builtinRenderer (d := townsDiagram) (p := .standard "com.example" "b")
    (by decide +kernel) (by decide +kernel)
  have hclasses : townsDiagram.normalize.classes = [.named "1" "city", .named "2" "citie"] := by
    decide +kernel
  have hcity : Naming.singular (ClassBox.named "1" "city").entity = ['c', 'i', 't'] ++ ['y'] := by
    decide +kernel
  have hcitie : Naming.singular (ClassBox.named "2" "citie").entity =
      ['c', 'i', 't'] ++ ['i', 'e'] := by
    decide +kernel
  have hrespelled : Naming.Respelled (['c', 'i', 't'] ++ ['y']) (['c', 'i', 't'] ++ ['i', 'e']) :=
    .ie (by decide)
  obtain ⟨-, hnames⟩ := resources_of_generate hok
  rw [hclasses, List.pairwise_pair, hcity, hcitie] at hnames
  exact ⟨_, hok, _, _, hclasses, hnames.1, hnames.2.mpr (.inr (.inl hrespelled))⟩

/-- Two classes whose names are divided into different words. -/
def ordersDiagram : Diagram where
  classes := [.named "1" "order item", .named "2" "orderitem"]
  relationships := []

/-- Two classes of a project can be addressed under one name. -/
theorem exists_resource_shared :
    ∃ project, generate ordersDiagram (.standard "com.example" "b") builtinRenderer = .ok project ∧
      ∃ first second, ordersDiagram.normalize.classes = [first, second] ∧
        first.entity ≠ second.entity ∧
        Naming.resourceName first.entity = Naming.resourceName second.entity ∧
        ∃ f ∈ project.files, ∃ g ∈ project.files, f.path ≠ g.path ∧
          HasLine f.content "@RequestMapping(\"/api/orderitems\")" ∧
          HasLine g.content "@RequestMapping(\"/api/orderitems\")" := by
  have hok := generate_builtinRenderer (d := ordersDiagram) (p := .standard "com.example" "b")
    (by decide +kernel) (by decide +kernel)
  have hclasses : ordersDiagram.normalize.classes =
      [.named "1" "order item", .named "2" "orderitem"] := by
    decide +kernel
  have hmapped : ∀ c ∈ ordersDiagram.normalize.classes,
      HasLine ((Index.ofDiagram ordersDiagram.normalize).layers "com.example" c).controller.source
        "@RequestMapping(\"/api/orderitems\")" := by
    intro c hc
    have hname : ∀ c ∈ ordersDiagram.normalize.classes,
        "@RequestMapping(\"/api/" ++ Naming.resourceName c.entity ++ "\")" =
          "@RequestMapping(\"/api/orderitems\")" := by
      decide +kernel
    rw [← hname c hc]
    exact (Index.layers_addressedBy _ _ c).mapped
  have hfirst : ClassBox.named "1" "order item" ∈ ordersDiagram.normalize.classes := by
    simp [hclasses]
  have hsecond : ClassBox.named "2" "orderitem" ∈ ordersDiagram.normalize.classes := by
    simp [hclasses]
  exact ⟨_, hok, _, _, hclasses, by decide +kernel, by decide +kernel,
    _, controller_mem_of_generate hok hfirst, _, controller_mem_of_generate hok hsecond,
    by decide +kernel, hmapped _ hfirst, hmapped _ hsecond⟩

end Scaffold

import Scaffold.Entity.Layers
import Scaffold.Project.Files
import Scaffold.Settings.Basic
import Scaffold.Source.Project

/-!
# Generating a project

A project is generated in steps, each of which renders one context and adds the text to the project
under one path. The sequence of steps is known before anything is rendered: the three files of the
project as a whole, and then four files for each class in the order of the diagram. The first step
that fails ends the generation, and nothing is kept.

The classes lie in a directory for the base package, one directory deeper for each layer. Every path
is made by joining one name at a time; the segments of a base package and the names of classes are
used as they are, so one that is itself an absolute path replaces what stands before it.

## Main definitions

* `Layout`: where the files of a project lie.
* `Step`: a path with the context of the file that belongs there.
* `projectSteps`, `Index.classSteps`, `generationSteps`: the sequence of steps.
* `runSteps`, `generate`: the project that the steps give.
* `begunSteps`, `keylessClasses`: how far a generation gets, and the classes without a key on its
  way.
-/

namespace Scaffold

/-! ### The layout of a project -/

/-- The place of the generated classes. -/
structure Layout where
  javaRoot : Path
  deriving DecidableEq, Repr

namespace Layout

/-- The layout for a base package. Empty segments are skipped. -/
def ofPackage (basePackage : String) : Layout :=
  let segments := Text.fields (· == '.') basePackage.toList
  ⟨segments.foldl (fun p segment => p.join ⟨String.ofList segment⟩) ⟨"src/main/java"⟩⟩

/-- The path of the build descriptor. -/
def buildDescriptor (_ : Layout) : Path := ⟨"pom.xml"⟩

/-- The path of the class that starts the application. -/
def bootstrap (l : Layout) (mainClass : String) : Path :=
  l.javaRoot.join ⟨mainClass ++ ".java"⟩

/-- The path of the settings of the application. -/
def configuration (_ : Layout) : Path := ⟨"src/main/resources/application.properties"⟩

/-- The path of an entity. -/
def entity (l : Layout) (entityName : String) : Path :=
  (l.javaRoot.join ⟨"model"⟩).join ⟨entityName ++ ".java"⟩

/-- The path of the repository of an entity. -/
def repository (l : Layout) (entityName : String) : Path :=
  (l.javaRoot.join ⟨"repository"⟩).join ⟨entityName ++ "Repository.java"⟩

/-- The path of the service of an entity. -/
def service (l : Layout) (entityName : String) : Path :=
  (l.javaRoot.join ⟨"service"⟩).join ⟨entityName ++ "Service.java"⟩

/-- The path of the controller of an entity. -/
def controller (l : Layout) (entityName : String) : Path :=
  (l.javaRoot.join ⟨"controller"⟩).join ⟨entityName ++ "Controller.java"⟩

end Layout

/-! ### Steps -/

/-- The generation of one file. -/
structure Step where
  path : Path
  context : Context
  deriving DecidableEq, Repr

/-- Why a project cannot be generated. -/
inductive GenerationError where
  | rendering (template : Template) (path : Path) (explanation : String)
  | placing (error : PlacementError)
  deriving DecidableEq, Repr

/-- The steps for the project as a whole. -/
def projectSteps (p : Parameters) : List Step :=
  let layout := Layout.ofPackage p.basePackage
  let dataSource := p.application.dataSource
  [⟨layout.buildDescriptor, .buildDescriptor
      { groupId := p.groupId
        artifactId := p.artifactId
        basePackage := p.basePackage
        javaVersion := p.javaVersion
        springBootVersion := p.springBootVersion }⟩,
   ⟨layout.bootstrap p.mainClass, .bootstrap
      { basePackage := p.basePackage, mainClass := p.mainClass }⟩,
   ⟨layout.configuration, .configuration
      { serverPort := p.application.serverPort
        dbUrl := dataSource.url
        dbUsername := dataSource.username
        dbPassword := dataSource.password
        dbDriver := dataSource.driver
        dbDialect := dataSource.dialect
        ddlAuto := p.application.ddlAuto
        showSql := p.application.showSql }⟩]

/-- The steps for a class. -/
def Index.classSteps (x : Index) (basePackage : String) (c : ClassBox) : List Step :=
  let layout := Layout.ofPackage basePackage
  let contexts := x.layers basePackage c
  [⟨layout.entity c.entity, .entity contexts.entity⟩,
   ⟨layout.repository c.entity, .repository contexts.repository⟩,
   ⟨layout.service c.entity, .service contexts.service⟩,
   ⟨layout.controller c.entity, .controller contexts.controller⟩]

/-- The steps for a diagram, which is brought into its normal form first. -/
def generationSteps (d : Diagram) (p : Parameters) : List Step :=
  let x := Index.ofDiagram d.normalize
  projectSteps p ++ x.diagram.classes.flatMap (x.classSteps p.basePackage)

/-- The project with the file of one step, after the contexts rendered before, latest first. -/
def takeStep (render : Renderer) (rendered : List Context) (project : Project) (step : Step) :
    Except GenerationError Project :=
  match render rendered step.context with
  | .error explanation => .error (.rendering step.context.template step.path explanation)
  | .ok text => (project.add step.path text).mapError .placing

/-- The project that some steps give, where each builds on what the earlier ones left. -/
def runSteps (render : Renderer) :
    List Context → Project → List Step → Except GenerationError Project
  | _, project, [] => .ok project
  | rendered, project, step :: rest =>
    match takeStep render rendered project step with
    | .error e => .error e
    | .ok project => runSteps render (step.context :: rendered) project rest

/-- The project of a diagram. -/
def generate (d : Diagram) (p : Parameters) (render : Renderer) :
    Except GenerationError Project :=
  runSteps render [] .empty (generationSteps d p)

/-! ### Classes without a key -/

/-- The steps that are begun: those that succeed in a row, and the first one that fails. -/
def begunSteps (render : Renderer) : List Context → Project → List Step → List Step
  | _, _, [] => []
  | rendered, project, step :: rest =>
    match takeStep render rendered project step with
    | .error _ => [step]
    | .ok project => step :: begunSteps render (step.context :: rendered) project rest

/-- Whether a step begins the files of a class. -/
def Step.beginsClass (step : Step) : Bool :=
  step.context.template == .entity

/-- Whether a class is at the top of a hierarchy and has no attribute that can be its key. -/
def Index.isKeyless (x : Index) (c : ClassBox) : Bool :=
  (x.key c).isNone && (x.parentEntity c).isNone

/-- The classes without a key that a generation meets before it ends. -/
def keylessClasses (d : Diagram) (p : Parameters) (render : Renderer) : List ClassBox :=
  let x := Index.ofDiagram d.normalize
  let begun := begunSteps render [] .empty (generationSteps d p)
  (x.diagram.classes.take (begun.countP Step.beginsClass)).filter x.isKeyless

end Scaffold

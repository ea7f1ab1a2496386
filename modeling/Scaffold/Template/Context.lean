import Scaffold.Association.Relations
import Scaffold.Settings.Basic

/-!
# Template contexts

Every generated file is written from a template and a context, a record with everything the template
needs. There are four contexts for each class and three for the project as a whole.
-/

namespace Scaffold

/-- The kinds of generated files. -/
inductive Template where
  | entity
  | repository
  | service
  | controller
  | buildDescriptor
  | bootstrap
  | configuration
  deriving DecidableEq, Repr

/-- The identifier of a template. -/
def Template.text : Template → String
  | .entity => "entity"
  | .repository => "repository"
  | .service => "service"
  | .controller => "controller"
  | .buildDescriptor => "build_descriptor"
  | .bootstrap => "bootstrap"
  | .configuration => "configuration"

/-- A stored property of an entity. Only the key says whether it is generated. -/
structure Property where
  name : String
  type : String
  isKey : Bool
  generated : Option Bool
  deriving DecidableEq, Repr

/-- The key by which an entity is found. The top of the hierarchy declares an inherited one. -/
structure PrimaryKey where
  name : String
  type : String
  setter : String
  generated : Bool
  inherited : Bool
  deriving DecidableEq, Repr

/-- An operation without a body. It returns a literal unless it returns nothing. -/
structure Stub where
  name : String
  parameters : String
  returnType : String
  placeholder : Option String
  deriving DecidableEq, Repr

/-- The context of an entity. -/
structure Context.Entity where
  basePackage : String
  entityName : String
  properties : List Property
  oneToOne : List OneToOne
  oneToMany : List OneToMany
  manyToOne : List ManyToOne
  manyToMany : List ManyToMany
  parentEntity : Option String
  stubs : List Stub
  key : Option PrimaryKey
  resourceName : String
  deriving DecidableEq, Repr

/-- The context of a repository. -/
structure Context.Repository where
  basePackage : String
  entityName : String
  keyType : Option String
  deriving DecidableEq, Repr

/-- The context of a service. -/
structure Context.Service where
  basePackage : String
  entityName : String
  keyType : Option String
  keySetter : Option String
  deriving DecidableEq, Repr

/-- The context of a controller. -/
structure Context.Controller where
  basePackage : String
  entityName : String
  resourceName : String
  keyType : Option String
  deriving DecidableEq, Repr

/-- The context of the build descriptor. -/
structure Context.Build where
  groupId : String
  artifactId : String
  basePackage : String
  javaVersion : String
  springBootVersion : String
  deriving DecidableEq, Repr

/-- The context of the class that starts the application. -/
structure Context.Bootstrap where
  basePackage : String
  mainClass : String
  deriving DecidableEq, Repr

/-- The context of the settings that the application reads when it starts. -/
structure Context.Configuration where
  serverPort : Port
  dbUrl : String
  dbUsername : String
  dbPassword : String
  dbDriver : String
  dbDialect : String
  ddlAuto : String
  showSql : Bool
  deriving DecidableEq, Repr

/-- A context of any kind. -/
inductive Context where
  | entity (c : Context.Entity)
  | repository (c : Context.Repository)
  | service (c : Context.Service)
  | controller (c : Context.Controller)
  | buildDescriptor (c : Context.Build)
  | bootstrap (c : Context.Bootstrap)
  | configuration (c : Context.Configuration)
  deriving DecidableEq, Repr

/-- The template that a context is for. -/
def Context.template : Context → Template
  | .entity _ => .entity
  | .repository _ => .repository
  | .service _ => .service
  | .controller _ => .controller
  | .buildDescriptor _ => .buildDescriptor
  | .bootstrap _ => .bootstrap
  | .configuration _ => .configuration

/-- The type of the key of an entity. -/
def Context.Entity.keyType (c : Context.Entity) : Option String :=
  c.key.map PrimaryKey.type

end Scaffold

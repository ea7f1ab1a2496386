import Scaffold.Naming.Identifier
import Scaffold.Path.Basic

/-!
# Settings

What a run of the generator is told: where the diagram is, where the project goes, and for what it
is generated. The last are the parameters of the project. Besides the diagram, a project depends on
the package and the coordinates under which it is built and on the settings of the application, its
database connection among them. Everything but the package and the artifact has a default.

## Main definitions

* `Port`: the number of a port, which fits 16 bits.
* `Parameters`, `Application`, `DataSource`: what a project is generated for.
* `Settings`: what a run is told.
* `Settings.standard`: the settings that a new settings file holds.
-/

namespace Scaffold

/-! ### Ports -/

/-- The number of a port. -/
structure Port where
  val : Nat
  isLt : val < 65536
  deriving DecidableEq, Repr

namespace Port

instance : Coe Port Nat where
  coe := val

/-- A number cut to 16 bits. -/
instance : NatCast Port where
  natCast n := ⟨n % 65536, Nat.mod_lt _ (by decide)⟩

instance (n : Nat) : OfNat Port n where
  ofNat := Nat.cast n

end Port

/-! ### Parameters of a project -/

/-- The database connection of the application. -/
structure DataSource where
  vendor : String
  host : String
  port : Port
  name : String
  username : String
  password : String
  driver : String
  dialect : String
  deriving DecidableEq, Repr

/-- The settings of the application. -/
structure Application where
  serverPort : Port
  ddlAuto : String
  showSql : Bool
  dataSource : DataSource
  deriving DecidableEq, Repr

/-- What a project is generated for. -/
structure Parameters where
  basePackage : String
  artifactId : String
  groupId : String
  javaVersion : String
  springBootVersion : String
  application : Application
  deriving DecidableEq, Repr

namespace DataSource

/-- The connection to a local database. -/
def standard : DataSource where
  vendor := "postgresql"
  host := "localhost"
  port := 5432
  name := "app_db"
  username := "postgres"
  password := "postgres"
  driver := "org.postgresql.Driver"
  dialect := "org.hibernate.dialect.PostgreSQLDialect"

/-- The address of a database. -/
def url (d : DataSource) : String :=
  "jdbc:" ++ d.vendor ++ "://" ++ d.host ++ ":" ++ Nat.repr d.port ++ "/" ++ d.name

end DataSource

/-- The settings of an application that says nothing about them. -/
def Application.standard : Application where
  serverPort := 9000
  ddlAuto := "update"
  showSql := true
  dataSource := .standard

namespace Parameters

/-- The group of a project that names none. -/
def standardGroup : String := "com.example"

/-- The language version of a project that names none. -/
def standardJavaVersion : String := "17"

/-- The framework version of a project that names none. -/
def standardSpringBootVersion : String := "3.3.4"

/-- The parameters of a project about which only the package and the artifact are known. -/
def standard (basePackage artifactId : String) : Parameters where
  basePackage := basePackage
  artifactId := artifactId
  groupId := standardGroup
  javaVersion := standardJavaVersion
  springBootVersion := standardSpringBootVersion
  application := .standard

/-- The name of the class that starts the application. -/
def mainClass (p : Parameters) : String :=
  Naming.entityName p.artifactId ++ "Application"

end Parameters

/-! ### Settings of a run -/

/-- The settings of a run. -/
structure Settings where
  schemaFile : Path
  outputDir : Path
  overwrite : Bool
  archive : Bool
  parameters : Parameters
  deriving DecidableEq, Repr

namespace Settings

/-- The settings that a new settings file holds. -/
def standard : Settings where
  schemaFile := ⟨"uml.json"⟩
  outputDir := ⟨"generated"⟩
  overwrite := false
  archive := false
  parameters := .standard "com.example.demo" "demo"

/-- The path of the archive, inside the output directory. -/
def archiveFile (s : Settings) : Path :=
  s.outputDir.join ⟨s.parameters.artifactId ++ ".zip"⟩

/-- The path of the output, which is an archive or a directory. -/
def destination (s : Settings) : Path :=
  if s.archive then s.archiveFile else s.outputDir

end Settings

end Scaffold

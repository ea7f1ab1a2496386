import Scaffold.Settings.Basic
import Scaffold.Toml.Reader
import Scaffold.Toml.Writer

/-!
# Settings as documents

How settings are written to a file and read from one. The file needs the path of the diagram, the
output directory, the package and the artifact; everything else has a default.

The members of a table are read in the order of their keys, those that name no field included: they
are skipped, but their numbers need a value. A list that stands for a record is only read as far as
the record has fields. Integers beyond 64 bits are no values of the format. A document with one in
it is accepted as long as nothing asks for that value, and is called ill-formed as soon as anything
else is wrong with it.

## Main definitions

* `Settings.toSections`, `Settings.text`: the document of some settings.
* `settingsRecord`: the record type of settings, with those of their parts.
* `Settings.parse`: the settings of a text.
-/

namespace Scaffold

open Toml (Value Members Section)

/-- What is wrong with a settings document: its form or its content. -/
inductive SettingsError where
  | form
  | content (e : Record.Error)
  deriving DecidableEq, Repr

/-! ### Writing -/

namespace Settings

/-- The sections of the document of some settings. -/
def toSections (s : Settings) : List Section :=
  let application := s.parameters.application
  let dataSource := application.dataSource
  [⟨["input"], [("schema_file", .text s.schemaFile.text)]⟩,
   ⟨["output"],
    [("dir", .text s.outputDir.text),
     ("overwrite", .boolean s.overwrite),
     ("archive", .boolean s.archive)]⟩,
   ⟨["project"],
    [("base_package", .text s.parameters.basePackage),
     ("artifact_id", .text s.parameters.artifactId),
     ("group_id", .text s.parameters.groupId),
     ("java_version", .text s.parameters.javaVersion),
     ("spring_boot_version", .text s.parameters.springBootVersion)]⟩,
   ⟨["application"],
    [("server_port", .integer application.serverPort.val),
     ("ddl_auto", .text application.ddlAuto),
     ("show_sql", .boolean application.showSql)]⟩,
   ⟨["application", "datasource"],
    [("vendor", .text dataSource.vendor),
     ("host", .text dataSource.host),
     ("port", .integer dataSource.port.val),
     ("name", .text dataSource.name),
     ("username", .text dataSource.username),
     ("password", .text dataSource.password),
     ("driver", .text dataSource.driver),
     ("dialect", .text dataSource.dialect)]⟩]

/-- The document of some settings. -/
def text (s : Settings) : String :=
  Toml.writeSections s.toSections

end Settings

/-! ### Reading -/

namespace Toml

/-- The error for a value that is not of the type asked for. -/
def Value.wrongType (v : Value) (expected : String) : SettingsError :=
  match v.found? with
  | some found => .content (.wrongType found expected)
  | none => .form

/-- The value as a text. -/
def Value.text : Value → Except SettingsError String
  | .string s => .ok s
  | v => .error (v.wrongType "a string")

/-- The value as a path. -/
def Value.path : Value → Except SettingsError Path
  | .string s => .ok ⟨s⟩
  | v => .error (v.wrongType "path string")

/-- The value as a truth value. -/
def Value.flag : Value → Except SettingsError Bool
  | .boolean b => .ok b
  | v => .error (v.wrongType "a boolean")

/-- The value as the number of a port. -/
def Value.port : Value → Except SettingsError Port
  | .integer n =>
    if h : 0 ≤ n ∧ n < 65536 then .ok ⟨n.toNat, by omega⟩
    else .error (.content (.wrongValue (.integer n) "u16"))
  | v => .error (v.wrongType "u16")

mutual

/-- Whether a value or one in it, other than lists and tables, satisfies a test. -/
def Value.holds (test : Value → Bool) : Value → Bool
  | .array items => itemsHold test items
  | .tables elements => tablesHold test elements
  | .table _ members => membersHold test members
  | v => test v

/-- Whether some value in the items of a list satisfies a test. -/
def itemsHold (test : Value → Bool) : List Value → Bool
  | [] => false
  | v :: rest => v.holds test || itemsHold test rest

/-- Whether some value in the members of a table satisfies a test. -/
def membersHold (test : Value → Bool) : List (String × Value) → Bool
  | [] => false
  | (_, v) :: rest => v.holds test || membersHold test rest

/-- Whether some value in a list of tables satisfies a test. -/
def tablesHold (test : Value → Bool) : List (List (String × Value)) → Bool
  | [] => false
  | members :: rest => membersHold test members || tablesHold test rest

end

/-- Whether a value is a number without a value. -/
def Value.isWithoutValue : Value → Bool
  | .numberWithoutValue => true
  | _ => false

/-- Whether a value is a number that the format cannot hold: beyond 64 bits or without a value. -/
def Value.exceedsFormat : Value → Bool
  | .numberWithoutValue => true
  | .integer n => n < -(Int.pow 2 63) || Int.pow 2 63 ≤ n
  | _ => false

/-- A value is skipped, where all numbers need a value. -/
def Value.skip (v : Value) : Except SettingsError Unit :=
  if v.holds Value.isWithoutValue then .error .form else .ok ()

/-- The type of the fields of settings. -/
abbrev Field (Draft : Type) := Record.Field Value SettingsError Draft

variable {Draft α : Type}

/-- A draft with some members taken, in their order. -/
def takeMembers (r : RecordType Value SettingsError Draft α) (draft : Draft) (members : Members) :
    Except SettingsError Draft :=
  members.foldlM
    (fun draft (key, value) =>
      match r.field? key with
      | some f => f.put value draft
      | none => value.skip.map fun () => draft)
    draft

/-- A draft with some items taken as its fields in order, up to the last field. -/
def takeItems : List (Field Draft) → Draft → List Value → Except SettingsError Draft
  | f :: fields, draft, item :: items =>
    match f.put item draft with
    | .error e => .error e
    | .ok draft => takeItems fields draft items
  | _, draft, _ => .ok draft

/-- The record that a table stands for. -/
def recordOfMembers (r : RecordType Value SettingsError Draft α) (members : Members) :
    Except SettingsError α :=
  (takeMembers r r.blank members).bind fun draft => (r.close draft).mapError .content

/-- The record that a list of fields stands for. -/
def recordOfItems (r : RecordType Value SettingsError Draft α) (items : List Value) :
    Except SettingsError α :=
  (takeItems r.fields r.blank items).bind fun draft =>
    (r.closeShort items.length draft).mapError .content

/-- The record that a value stands for. A date or a time has no members that a record asks for. -/
def recordOf (r : RecordType Value SettingsError Draft α) : Value → Except SettingsError α
  | .table _ members => recordOfMembers r members
  | .moment => recordOfMembers r []
  | .array items => recordOfItems r items
  | .tables elements => recordOfItems r (elements.map (.table .header))
  | v => .error (v.wrongType r.phrase)

end Toml

open Toml (recordOf)

/-- The record type of the section on the input. -/
def inputRecord : RecordType Value SettingsError (Option Path) Path where
  name := "InputConfig"
  fields := [.reading "schema_file" true Value.path id fun _ v => some v]
  blank := none
  finish draft := draft.getD ⟨""⟩

/-- What is known of the output. -/
structure OutputDraft where
  dir : Option Path
  overwrite : Option Bool
  archive : Option Bool
  deriving DecidableEq, Repr

/-- The section on the output. -/
structure OutputSection where
  dir : Path
  overwrite : Bool
  archive : Bool
  deriving DecidableEq, Repr

/-- The record type of the section on the output. -/
def outputRecord : RecordType Value SettingsError OutputDraft OutputSection where
  name := "OutputConfig"
  fields :=
    [.reading "dir" true Value.path (·.dir) fun o v => { o with dir := some v },
     .reading "overwrite" false Value.flag (·.overwrite) fun o v => { o with overwrite := some v },
     .reading "archive" false Value.flag (·.archive) fun o v => { o with archive := some v }]
  blank := ⟨none, none, none⟩
  finish o := ⟨o.dir.getD ⟨""⟩, o.overwrite.getD false, o.archive.getD false⟩

/-- What is known of the project. -/
structure ProjectDraft where
  basePackage : Option String
  artifactId : Option String
  groupId : Option String
  javaVersion : Option String
  springBootVersion : Option String
  deriving DecidableEq, Repr

/-- The record type of the section on the project. It says nothing about the application. -/
def projectRecord : RecordType Value SettingsError ProjectDraft Parameters where
  name := "ProjectConfig"
  fields :=
    [.reading "base_package" true Value.text (·.basePackage)
       fun p v => { p with basePackage := some v },
     .reading "artifact_id" true Value.text (·.artifactId)
       fun p v => { p with artifactId := some v },
     .reading "group_id" false Value.text (·.groupId) fun p v => { p with groupId := some v },
     .reading "java_version" false Value.text (·.javaVersion)
       fun p v => { p with javaVersion := some v },
     .reading "spring_boot_version" false Value.text (·.springBootVersion)
       fun p v => { p with springBootVersion := some v }]
  blank := ⟨none, none, none, none, none⟩
  finish p :=
    { basePackage := p.basePackage.getD ""
      artifactId := p.artifactId.getD ""
      groupId := p.groupId.getD Parameters.standardGroup
      javaVersion := p.javaVersion.getD Parameters.standardJavaVersion
      springBootVersion := p.springBootVersion.getD Parameters.standardSpringBootVersion
      application := .standard }

/-- The record type of the section on the database. It starts from the standard connection. -/
def dataSourceRecord : RecordType Value SettingsError DataSource DataSource where
  name := "DataSourceConfig"
  fields :=
    [.reading "vendor" false Value.text (some ·.vendor) fun d v => { d with vendor := v },
     .reading "host" false Value.text (some ·.host) fun d v => { d with host := v },
     .reading "port" false Value.port (some ·.port) fun d v => { d with port := v },
     .reading "name" false Value.text (some ·.name) fun d v => { d with name := v },
     .reading "username" false Value.text (some ·.username) fun d v => { d with username := v },
     .reading "password" false Value.text (some ·.password) fun d v => { d with password := v },
     .reading "driver" false Value.text (some ·.driver) fun d v => { d with driver := v },
     .reading "dialect" false Value.text (some ·.dialect) fun d v => { d with dialect := v }]
  blank := .standard
  finish d := d

/-- The record type of the section on the application. It starts from the standard settings. -/
def applicationRecord : RecordType Value SettingsError Application Application where
  name := "ApplicationConfig"
  fields :=
    [.reading "server_port" false Value.port (some ·.serverPort)
       fun a v => { a with serverPort := v },
     .reading "ddl_auto" false Value.text (some ·.ddlAuto) fun a v => { a with ddlAuto := v },
     .reading "show_sql" false Value.flag (some ·.showSql) fun a v => { a with showSql := v },
     .reading "datasource" false (recordOf dataSourceRecord) (some ·.dataSource)
       fun a v => { a with dataSource := v }]
  blank := .standard
  finish a := a

/-- What is known of settings. -/
structure SettingsDraft where
  input : Option Path
  output : Option OutputSection
  project : Option Parameters
  application : Option Application
  deriving DecidableEq, Repr

/-- The record type of settings. -/
def settingsRecord : RecordType Value SettingsError SettingsDraft Settings where
  name := "Config"
  fields :=
    [.reading "input" true (recordOf inputRecord) (·.input) fun s v => { s with input := some v },
     .reading "output" true (recordOf outputRecord) (·.output)
       fun s v => { s with output := some v },
     .reading "project" true (recordOf projectRecord) (·.project)
       fun s v => { s with project := some v },
     .reading "application" false (recordOf applicationRecord) (·.application)
       fun s v => { s with application := some v }]
  blank := ⟨none, none, none, none⟩
  finish s :=
    let output := s.output.getD ⟨⟨""⟩, false, false⟩
    { schemaFile := s.input.getD ⟨""⟩
      outputDir := output.dir
      overwrite := output.overwrite
      archive := output.archive
      parameters :=
        { s.project.getD (.standard "" "") with application := s.application.getD .standard } }

/-- The settings that a text stands for. -/
def Settings.parse (text : String) : Except SettingsError Settings :=
  match Toml.parse text with
  | none => .error .form
  | some members =>
    (Toml.recordOfMembers settingsRecord members).mapError fun e =>
      if Toml.membersHold Value.exceedsFormat members then .form else e

end Scaffold

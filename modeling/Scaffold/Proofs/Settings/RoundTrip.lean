import Scaffold.Proofs.Disk.Directories
import Scaffold.Proofs.Project.Preparation
import Scaffold.Proofs.Toml.Table

/-!
# Settings that are saved and loaded

Settings are written to a file as a document and read from it again. Nothing is lost on the way,
whatever the texts in them, and what is loaded passes the checks that settings have to pass, if it
did before it was saved.

The document has a table for each section, and one within another. The members of every table come
back in the order of their keys, and the record that they stand for takes them one by one.

## Main definitions

* `Settings.members`: the table of a settings document.

## Main results

* `Settings.parse_text`: the document of some settings stands for them.
* `Settings.load_save`: settings that are saved and loaded are the same.
-/

namespace Scaffold

open Toml (Value Members Section)

/-! ### The table of a document -/

/-- The members of the table on the database. -/
def DataSource.members (d : DataSource) : Members :=
  [("dialect", .string d.dialect),
   ("driver", .string d.driver),
   ("host", .string d.host),
   ("name", .string d.name),
   ("password", .string d.password),
   ("port", .integer d.port.val),
   ("username", .string d.username),
   ("vendor", .string d.vendor)]

/-- The members of the table on the application. -/
def Application.members (a : Application) : Members :=
  [("datasource", .table .header a.dataSource.members),
   ("ddl_auto", .string a.ddlAuto),
   ("server_port", .integer a.serverPort.val),
   ("show_sql", .boolean a.showSql)]

/-- The members of the table on the project. -/
def Parameters.members (p : Parameters) : Members :=
  [("artifact_id", .string p.artifactId),
   ("base_package", .string p.basePackage),
   ("group_id", .string p.groupId),
   ("java_version", .string p.javaVersion),
   ("spring_boot_version", .string p.springBootVersion)]

namespace Settings

/-- The members of the table on the output. -/
def outputMembers (st : Settings) : Members :=
  [("archive", .boolean st.archive),
   ("dir", .string st.outputDir.text),
   ("overwrite", .boolean st.overwrite)]

/-- The members of the table that a settings document stands for. -/
def members (st : Settings) : Members :=
  [("application", .table .header st.parameters.application.members),
   ("input", .table .header [("schema_file", .string st.schemaFile.text)]),
   ("output", .table .header st.outputMembers),
   ("project", .table .header st.parameters.members)]

/-- The tables of the sections come in the order of their keys, and so do their members. -/
theorem foldlM_addTo_toSections (st : Settings) :
    st.toSections.foldlM (fun members s => s.addTo members) [] = some st.members := by
  -- one section after the other: what follows is only looked at once the table in front is known
  have hbind {α β : Type} (a : α) (f : α → Option β) : (some a >>= f) = f a := rfl
  simp only [toSections, List.foldlM_cons, List.foldlM_nil, hbind, Section.addTo,
    List.getLast?_singleton, List.getLast?_cons_cons, List.dropLast_singleton,
    List.dropLast_cons_cons, Toml.addTable, Toml.descend, Toml.alter, Toml.opened?,
    Toml.Origin.admits, Toml.assignAll, Toml.assignKey, Toml.Scalar.toValue, Option.map_some,
    Option.pure_def, Bool.false_eq_true, Bool.not_false, ↓reduceIte, String.reduceEq,
    String.reduceLT, members, outputMembers, Parameters.members, Application.members,
    DataSource.members]

/-- The keys of a settings document are the same for all settings. -/
theorem isPlainKey_of_mem_toSections (st : Settings) :
    ∀ s ∈ st.toSections, ∀ key ∈ s.path ++ s.entries.map Prod.fst, Toml.IsPlainKey key := by
  have hkeys : ∀ key ∈ standard.toSections.flatMap fun s => s.path ++ s.entries.map Prod.fst,
      Toml.IsPlainKey key := by decide +kernel
  intro s hs key hkey
  exact hkeys key (List.mem_flatMap.mpr ⟨s, hs, hkey⟩ : key ∈ st.toSections.flatMap fun s =>
    s.path ++ s.entries.map Prod.fst)

theorem fits_of_mem_toSections (st : Settings) :
    ∀ s ∈ st.toSections, ∀ e ∈ s.entries, e.2.Fits := by
  have hport : ∀ port : Port, port.val < Nat.pow 2 128 := fun port =>
    Nat.lt_trans port.isLt (by decide)
  simp only [toSections, List.forall_mem_cons, List.not_mem_nil, Toml.Scalar.fits_text,
    Toml.Scalar.fits_integer, Toml.Scalar.fits_boolean, hport]
  simp

theorem isPlain_of_mem_toSections (st : Settings) : ∀ s ∈ st.toSections, s.IsPlain := by
  have hpaths : ∀ s ∈ st.toSections, s.path ≠ [] ∧ s.path.length ≤ Toml.maxDepth := by
    simp [toSections, Toml.maxDepth]
  intro s hs
  have hkeys := st.isPlainKey_of_mem_toSections s hs
  refine ⟨(hpaths s hs).1, (hpaths s hs).2, fun key hkey => ?_, fun e he => ?_⟩
  · exact hkeys key (List.mem_append_left _ hkey)
  · exact ⟨hkeys e.1 (List.mem_append_right _ (List.mem_map_of_mem he)),
      st.fits_of_mem_toSections s hs e he⟩

/-- The document of some settings is the table of their members. -/
theorem parse_text_eq_members (st : Settings) : Toml.parse st.text = some st.members := by
  rw [text, Toml.parse_writeSections_eq_addTo st.isPlain_of_mem_toSections,
    foldlM_addTo_toSections]

end Settings

/-! ### The record of a table -/

/-- A member is taken by the field of its name. -/
theorem Toml.takeMembers_written {Draft α β : Type}
    (r : RecordType Value SettingsError Draft α) {draft : Draft} {name : String}
    {isRequired : Bool} {read : Value → Except SettingsError β} {get : Draft → Option β}
    {set : Draft → β → Draft} {v : Value} {value : β}
    (hfield : r.field? name = some (.reading name isRequired read get set))
    (hread : read v = .ok value) (rest : Members) :
    takeMembers r draft ((name, v) :: rest) = takeMembers r (set draft value) rest := by
  rw [takeMembers, List.foldlM_cons]
  dsimp only
  rw [hfield]
  dsimp only [Record.Field.reading]
  rw [hread]
  rfl

/-- A table stands for the record of the draft that its members give. -/
theorem Toml.recordOfMembers_of_draft {Draft α : Type}
    (r : RecordType Value SettingsError Draft α) {members : Members} (draft : Draft)
    (hmembers : takeMembers r r.blank members = .ok draft) (hmissing : r.missing? draft = none) :
    recordOfMembers r members = .ok (r.finish draft) := by
  rw [recordOfMembers, hmembers, Except.bind, RecordType.close, hmissing]
  rfl

theorem Toml.Value.text_string (s : String) : Value.text (.string s) = .ok s := rfl

theorem Toml.Value.path_string (p : Path) : Value.path (.string p.text) = .ok p := rfl

theorem Toml.Value.flag_boolean (b : Bool) : Value.flag (.boolean b) = .ok b := rfl

theorem Toml.Value.port_integer (port : Port) : Value.port (.integer port.val) = .ok port := by
  have hrange : 0 ≤ (port.val : Int) ∧ (port.val : Int) < 65536 := by
    have := port.isLt
    omega
  rw [Value.port, dif_pos hrange]
  rfl

theorem recordOf_dataSource (d : DataSource) :
    Toml.recordOf dataSourceRecord (.table .header d.members) = .ok d := by
  refine Toml.recordOfMembers_of_draft dataSourceRecord d ?_ rfl
  rw [DataSource.members, Toml.takeMembers_written _ rfl (Value.text_string _),
    Toml.takeMembers_written _ rfl (Value.text_string _),
    Toml.takeMembers_written _ rfl (Value.text_string _),
    Toml.takeMembers_written _ rfl (Value.text_string _),
    Toml.takeMembers_written _ rfl (Value.text_string _),
    Toml.takeMembers_written _ rfl (Value.port_integer _),
    Toml.takeMembers_written _ rfl (Value.text_string _),
    Toml.takeMembers_written _ rfl (Value.text_string _)]
  rfl

theorem recordOf_application (a : Application) :
    Toml.recordOf applicationRecord (.table .header a.members) = .ok a := by
  refine Toml.recordOfMembers_of_draft applicationRecord a ?_ rfl
  rw [Application.members, Toml.takeMembers_written _ rfl (recordOf_dataSource _),
    Toml.takeMembers_written _ rfl (Value.text_string _),
    Toml.takeMembers_written _ rfl (Value.port_integer _),
    Toml.takeMembers_written _ rfl (Value.flag_boolean _)]
  rfl

/-- The section on the project says nothing about the application. -/
theorem recordOf_project (p : Parameters) :
    Toml.recordOf projectRecord (.table .header p.members) =
      .ok { p with application := .standard } := by
  refine Toml.recordOfMembers_of_draft projectRecord
    ⟨some p.basePackage, some p.artifactId, some p.groupId, some p.javaVersion,
      some p.springBootVersion⟩ ?_ rfl
  rw [Parameters.members, Toml.takeMembers_written _ rfl (Value.text_string _),
    Toml.takeMembers_written _ rfl (Value.text_string _),
    Toml.takeMembers_written _ rfl (Value.text_string _),
    Toml.takeMembers_written _ rfl (Value.text_string _),
    Toml.takeMembers_written _ rfl (Value.text_string _)]
  rfl

namespace Settings

theorem recordOf_output (st : Settings) :
    Toml.recordOf outputRecord (.table .header st.outputMembers) =
      .ok ⟨st.outputDir, st.overwrite, st.archive⟩ := by
  refine Toml.recordOfMembers_of_draft outputRecord
    ⟨some st.outputDir, some st.overwrite, some st.archive⟩ ?_ rfl
  rw [outputMembers, Toml.takeMembers_written _ rfl (Value.flag_boolean _),
    Toml.takeMembers_written _ rfl (Value.path_string _),
    Toml.takeMembers_written _ rfl (Value.flag_boolean _)]
  rfl

theorem recordOf_input (st : Settings) :
    Toml.recordOf inputRecord (.table .header [("schema_file", .string st.schemaFile.text)]) =
      .ok st.schemaFile := by
  refine Toml.recordOfMembers_of_draft inputRecord (some st.schemaFile) ?_ rfl
  rw [Toml.takeMembers_written _ rfl (Value.path_string _)]
  rfl

theorem recordOfMembers_members (st : Settings) :
    Toml.recordOfMembers settingsRecord st.members = .ok st := by
  refine Toml.recordOfMembers_of_draft settingsRecord
    ⟨some st.schemaFile, some ⟨st.outputDir, st.overwrite, st.archive⟩,
      some { st.parameters with application := .standard }, some st.parameters.application⟩ ?_ rfl
  rw [members, Toml.takeMembers_written _ rfl (recordOf_application st.parameters.application),
    Toml.takeMembers_written _ rfl st.recordOf_input,
    Toml.takeMembers_written _ rfl st.recordOf_output,
    Toml.takeMembers_written _ rfl (recordOf_project st.parameters)]
  rfl

/-- **A settings document stands for the settings that it was written for**, whatever the texts in
them. -/
theorem parse_text (st : Settings) : parse st.text = .ok st := by
  rw [parse, parse_text_eq_members]
  dsimp only
  rw [recordOfMembers_members]
  rfl

/-! ### Settings on disk -/

theorem fault?_eq_none {st : Settings}
    (hpackage : Naming.isPackage st.parameters.basePackage = true)
    (hartifact : Text.trim st.parameters.artifactId ≠ "") : st.fault? true = none := by
  rw [fault?, hpackage, if_neg (by simp), if_neg (by simp), if_neg hartifact]

theorem run_save {st : Settings} {path : Path} {s : Session} (h : s.files.CanWrite path) :
    (st.save path : Running Unit).run.run s =
      (.ok (), { s with files := s.files.put (s.files.place path) (.file (.text st.text)) }) := by
  have hrun : (st.save path : Running Unit).run.run s =
      (((Session.change (·.writeFile path (.text st.text))).run s).1.mapError
          (.writingSettings path),
        ((Session.change (·.writeFile path (.text st.text))).run s).2) := rfl
  rw [hrun, Session.run_change_ok (FileSystem.writeFile_of_canWrite h (.text st.text))]
  rfl

theorem run_load {st : Settings} {path : Path} {s : Session} {text : String}
    (hread : s.files.readText path = .ok text) (hparse : parse text = .ok st)
    {content : Content} (hdiagram : s.files.stat? st.schemaFile = some (.file content))
    (hfault : st.fault? true = none) :
    (load path : Running Settings).run.run s = (.ok st, s) := by
  have htext : (orFail (.readingSettings path) (Storage.readText path) :
      Running String).run.run s = (.ok text, s) := by
    have hrun : (orFail (.readingSettings path) (Storage.readText path) :
        Running String).run.run s =
          ((s.files.readText path).mapError (.readingSettings path), s) := rfl
    rw [hrun, hread]
    rfl
  have hfile : (ExceptT.lift (Storage.isFile st.schemaFile) : Running Bool).run.run s =
      (.ok true, s) := by
    have hrun : (ExceptT.lift (Storage.isFile st.schemaFile) : Running Bool).run.run s =
        (.ok ((s.files.stat? st.schemaFile).map Entry.kind == some .file), s) := rfl
    rw [hrun, hdiagram]
    rfl
  rw [load, Session.runExcept_bind, htext]
  dsimp only
  rw [hparse]
  dsimp only
  rw [Session.runExcept_bind, hfile]
  dsimp only
  rw [hfault]
  rfl

/-- **Settings that are saved are loaded again.** Where a file can be written, saving goes through,
and loading that file gives the same settings if they pass the checks: the diagram is a file, the
package is a package name, and the artifact is not blank. The texts in them do not matter, and the
settings may even be saved over the diagram. -/
theorem load_save {st : Settings} {path : Path} {s : Session} (hpath : s.files.CanWrite path)
    (hdiagram : ∃ content, s.files.stat? st.schemaFile = some (.file content))
    (hpackage : Naming.isPackage st.parameters.basePackage = true)
    (hartifact : Text.trim st.parameters.artifactId ≠ "") :
    ∃ s', (st.save path : Running Unit).run.run s = (.ok (), s') ∧
      (load path : Running Settings).run.run s' = (.ok st, s') := by
  obtain ⟨content, hcontent⟩ := hdiagram
  obtain ⟨content', hfile⟩ :=
    FileSystem.stat?_put_of_file hpath (.text st.text) hcontent
  exact ⟨_, run_save hpath, run_load (FileSystem.readText_put hpath st.text) st.parse_text
    hfile (fault?_eq_none hpackage hartifact)⟩

/-- Settings with texts that need every form: with quotes of both kinds, three of them in a row,
backslashes, line breaks and control characters. -/
def unruly : Settings where
  schemaFile := ⟨"it's/uml.json"⟩
  outputDir := ⟨"c:\\out\t"⟩
  overwrite := true
  archive := true
  parameters :=
    { basePackage := "com.example"
      artifactId := "\"\"\"\n\\"
      groupId := "'''\r\n\"\"\"\"\" "
      javaVersion := ""
      springBootVersion := "# 3\n[project]"
      application :=
        { serverPort := 65535
          ddlAuto := "true"
          showSql := false
          dataSource := { DataSource.standard with password := "\x00\x1b\x7f\\u0041\u2028" } } }

/-- A directory with a diagram and a file that the settings are saved over. -/
def unrulyStart : Session :=
  .ofFiles
    ⟨[(["work"], .directory),
      (["work", "it's"], .directory),
      (["work", "it's", "uml.json"], .file (.text "\x7b\x7d")),
      (["work", "settings"], .file (.archive []))], ["work"]⟩

theorem load_save_unruly :
    ∃ s', (unruly.save ⟨"settings"⟩ : Running Unit).run.run unrulyStart = (.ok (), s') ∧
      (load ⟨"settings"⟩ : Running Settings).run.run s' = (.ok unruly, s') := by
  have hpath : unrulyStart.files.CanWrite ⟨"settings"⟩ :=
    ⟨by decide +kernel, by decide +kernel, by decide +kernel, by decide +kernel⟩
  have hdiagram : unrulyStart.files.stat? unruly.schemaFile =
      some (.file (.text "\x7b\x7d")) := by decide +kernel
  exact load_save hpath ⟨_, hdiagram⟩ (by decide +kernel) (by decide +kernel)

end Settings

end Scaffold

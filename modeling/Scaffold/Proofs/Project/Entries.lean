import Scaffold.Proofs.Path.Names
import Scaffold.Proofs.Project.Adding
import Scaffold.Proofs.Project.Outcome

/-!
# Names of entries

All entries of an archive are under one root folder: their names start with its name and a slash.
Whether a name also stays inside the folder depends on what follows. The path of a file stays inside
the project, or the file would not have been added; but in a name its backslashes are slashes, and
with these it is another path. So an entry stays inside the root folder exactly if the path of its
file still does when it is spelled with slashes.

## Main definitions

* `namePieces`: a name cut at its slashes.
* `ArchiveEntry.StaysInside`: an entry is inside a root folder.

## Main results

* `ArchiveEntry.staysInside_iff`: which names stay inside a root folder.
* `Project.entries_offers`: which entries of an archive stay inside its root folder.
-/

namespace Scaffold

open FileSystem (segments)

/-! ### Names with slashes -/

/-- The pieces of a name between its slashes. -/
def namePieces (name : String) : List String :=
  (Text.splitAt Path.isSlash name.toList).map String.ofList

/-- The name of an entry starts with the root folder, and behind that it does not go up and does not
start again from the root of everything. Nothing but the folder itself ends there. -/
structure ArchiveEntry.StaysInside (root : String) (e : ArchiveEntry) : Prop where
  begins : (namePieces e.name).head? = some root
  not_up : ".." ∉ (namePieces e.name).tail
  relative : (namePieces e.name).tail.head? = some "" → (namePieces e.name).tail = [""]

instance (root : String) (e : ArchiveEntry) : Decidable (e.StaysInside root) :=
  decidable_of_iff
    ((namePieces e.name).head? = some root ∧ ".." ∉ (namePieces e.name).tail ∧
      ((namePieces e.name).tail.head? = some "" → (namePieces e.name).tail = [""]))
    ⟨fun ⟨h, h', h''⟩ => ⟨h, h', h''⟩, fun ⟨h, h', h''⟩ => ⟨h, h', h''⟩⟩

variable {root name : String}

/-- A name is no path of several names. -/
theorem not_mem_slash_of_components (h : (⟨root⟩ : Path).components = [.name root]) :
    '/' ∉ root.toList := by
  have hfileName : (⟨root⟩ : Path).fileName? = some root := by
    rw [Path.fileName?, h]
    rfl
  obtain ⟨-, -, -, -, -, -, hslash⟩ := Path.fields_of_fileName? hfileName
  exact hslash

theorem namePieces_under (hroot : '/' ∉ root.toList) (name : String) :
    namePieces (root ++ "/" ++ name) = root :: namePieces name := by
  have hno : ∀ c ∈ root.toList, Path.isSlash c = false := by
    intro c hc
    rw [Path.isSlash, beq_eq_false_iff_ne]
    rintro rfl
    exact hroot hc
  have htext : (root ++ "/" ++ name).toList = root.toList ++ '/' :: name.toList := by simp
  rw [namePieces, htext, Text.splitAt_append_separator _ rfl, Text.splitAt_of_forall_not hno,
    List.map_append, List.map_singleton, String.ofList_toList, List.singleton_append, namePieces]

theorem mem_namePieces_iff {piece : String} (hpiece : piece ≠ "") :
    piece ∈ namePieces name ↔ piece ∈ segments ⟨name⟩ := by
  rw [namePieces, segments, Text.fields, List.mem_map, List.mem_map]
  refine exists_congr fun chars => ?_
  rw [List.mem_filter, and_congr_left_iff]
  rintro rfl
  have hne : chars ≠ [] := by
    rintro rfl
    exact hpiece rfl
  simp [hne]

/-- A name starts again from the root exactly if it is absolute. -/
theorem relative_namePieces_iff :
    ((namePieces name).head? = some "" → namePieces name = [""]) ↔
      (⟨name⟩ : Path).isAbsolute = false := by
  rw [namePieces, Path.isAbsolute, beq_eq_false_iff_ne]
  cases name.toList with
  | nil => simp [Text.splitAt]
  | cons c rest =>
    have hne : Text.splitAt Path.isSlash rest ≠ [] := Text.splitAt_ne_nil rest
    by_cases hc : Path.isSlash c = true
    · obtain rfl := Path.eq_slash_of_isSlash hc
      simp [Text.splitAt, hc, hne]
    · obtain ⟨piece, pieces, hrest⟩ := List.exists_cons_of_ne_nil hne
      have hother : c ≠ '/' := by
        rintro rfl
        exact hc rfl
      simp [Text.splitAt, hc, hrest, hother]

/-- A name under a root folder stays inside exactly if it is the name of the folder itself or leads
inside a directory. -/
theorem ArchiveEntry.staysInside_iff (hroot : '/' ∉ root.toList) (name content : String) :
    (⟨root ++ "/" ++ name, content⟩ : ArchiveEntry).StaysInside root ↔
      name = "" ∨ (⟨name⟩ : Path).isInner = true := by
  have hpieces := namePieces_under hroot name
  have hup : ".." ∈ namePieces name ↔ ".." ∈ segments ⟨name⟩ := mem_namePieces_iff (by decide)
  have hinside : (⟨root ++ "/" ++ name, content⟩ : ArchiveEntry).StaysInside root ↔
      ".." ∉ segments ⟨name⟩ ∧ (⟨name⟩ : Path).isAbsolute = false := by
    rw [← hup, ← relative_namePieces_iff]
    constructor
    · rintro ⟨-, hnotUp, hrelative⟩
      rw [hpieces] at hnotUp hrelative
      exact ⟨hnotUp, hrelative⟩
    · rintro ⟨hnotUp, hrelative⟩
      exact ⟨by rw [hpieces]; rfl, by rwa [hpieces], by rwa [hpieces]⟩
  rw [hinside, Path.isInner_iff_segments]
  by_cases hempty : name = ""
  · subst hempty
    decide
  · simp [hempty, and_comm]

/-! ### Archives of a project -/

namespace Project

variable {t : Project}

/-- All entries of an archive are under its root folder. -/
theorem head?_namePieces_of_mem_toEntries (hroot : '/' ∉ root.toList) {e : ArchiveEntry}
    (he : e ∈ t.toEntries root) : (namePieces e.name).head? = some root := by
  obtain ⟨name, hname⟩ : ∃ name, e.name = root ++ "/" ++ name := by
    rw [toEntries, List.mem_cons, List.mem_map] at he
    rcases he with rfl | ⟨f, -, rfl⟩
    · exact ⟨"", by simp⟩
    · exact ⟨withSlashes f.path.text, rfl⟩
  rw [hname, namePieces_under hroot]
  rfl

theorem withSlashes_ne_empty {f : ProjectFile} (hf : f.path.isInner = true) :
    withSlashes f.path.text ≠ "" := by
  have hne := (Path.isInner_iff.mp hf).1
  rw [withSlashes]
  simpa [← String.toList_eq_nil_iff] using hne

/-- **Entries under the root folder.** When a project was written as an archive, its entries are the
root folder and the files in their order, and the name of each starts with the root folder. The
folder itself stays inside; a file does exactly if its path still leads inside a directory when its
backslashes are slashes, and so it does if it has none. -/
theorem entries_offers (calls : List ProjectFile)
    (hroot : (⟨root⟩ : Path).components = [.name root]) :
    (∀ overwrite output s s',
      ((OutputForm.archive root).pack overwrite (offers Project.offer .empty calls).2
          output).outcome s = (.ok (), s') →
        s'.files.at? (s.files.place output) =
          some (.file (.archive ((offers Project.offer .empty calls).2.toEntries root)))) ∧
    (∀ e ∈ (offers Project.offer .empty calls).2.toEntries root,
      (namePieces e.name).head? = some root) ∧
    (⟨root ++ "/", ""⟩ : ArchiveEntry).StaysInside root ∧
    ∀ f ∈ (offers Project.offer .empty calls).2.files,
      ((f.toEntry root).StaysInside root ↔
        (⟨withSlashes f.path.text⟩ : Path).isInner = true) ∧
      ('\\' ∉ f.path.text.toList → (f.toEntry root).StaysInside root) := by
  have hslash := not_mem_slash_of_components hroot
  have hplaced := wellPlaced_empty.offers calls
  refine ⟨fun overwrite output s s' hrun => (packArchive_ok hrun).1,
    fun e he => head?_namePieces_of_mem_toEntries hslash he, ?_, fun f hf => ?_⟩
  · have hfolder := (ArchiveEntry.staysInside_iff hslash "" "").mpr (.inl rfl)
    rwa [String.append_empty] at hfolder
  · have hinner := hplaced.inner f hf
    have hinside : (f.toEntry root).StaysInside root ↔
        (⟨withSlashes f.path.text⟩ : Path).isInner = true := by
      rw [ProjectFile.toEntry, ArchiveEntry.staysInside_iff hslash,
        or_iff_right (withSlashes_ne_empty hinner)]
    refine ⟨hinside, fun hnone => hinside.mpr ?_⟩
    rwa [withSlashes_of_not_mem hnone]

theorem entries_offers_backslash :
    (⟨"r"⟩ : Path).components = [.name "r"] ∧
      (offers Project.offer .empty [⟨⟨"a\\b"⟩, "1"⟩, ⟨⟨"..\\c"⟩, "2"⟩]).2.files =
        [⟨⟨"a\\b"⟩, "1"⟩, ⟨⟨"..\\c"⟩, "2"⟩] ∧
      (⟨"r/a/b", "1"⟩ : ArchiveEntry).StaysInside "r" ∧
      ¬ (⟨"r/../c", "2"⟩ : ArchiveEntry).StaysInside "r" := by
  have hroot : (⟨"r"⟩ : Path).components = [.name "r"] := by decide +kernel
  have hfiles : (offers Project.offer .empty [⟨⟨"a\\b"⟩, "1"⟩, ⟨⟨"..\\c"⟩, "2"⟩]).2.files =
      [⟨⟨"a\\b"⟩, "1"⟩, ⟨⟨"..\\c"⟩, "2"⟩] := by decide +kernel
  obtain ⟨-, -, -, hentries⟩ :=
    entries_offers [⟨⟨"a\\b"⟩, "1"⟩, ⟨⟨"..\\c"⟩, "2"⟩] hroot
  rw [hfiles] at hentries
  have hinside : (⟨withSlashes "a\\b"⟩ : Path).isInner = true := by decide +kernel
  have houtside : ¬ (⟨withSlashes "..\\c"⟩ : Path).isInner = true := by decide +kernel
  exact ⟨hroot, hfiles, (hentries ⟨⟨"a\\b"⟩, "1"⟩ (by simp)).1.mpr hinside,
    fun h => houtside ((hentries ⟨⟨"..\\c"⟩, "2"⟩ (by simp)).1.mp h)⟩

/-- A file can be added whose entry leads out of the root folder. -/
theorem exists_entry_outside :
    ∃ calls s', (offers Project.offer .empty calls).1 = [.ok ()] ∧
      ((OutputForm.archive "r").pack false (offers Project.offer .empty calls).2
        ⟨"o.zip"⟩).outcome (.ofFiles ⟨[], []⟩) = (.ok (), s') ∧
      s'.files.at? ["o.zip"] =
        some (.file (.archive [⟨"r/", ""⟩, ⟨"r/../evil", "x"⟩])) ∧
      ¬ (⟨"r/../evil", "x"⟩ : ArchiveEntry).StaysInside "r" := by
  refine ⟨[⟨⟨"..\\evil"⟩, "x"⟩],
    .ofFiles ⟨[(["o.zip"], .file (.archive [⟨"r/", ""⟩, ⟨"r/../evil", "x"⟩]))], []⟩, ?_⟩
  decide +kernel

end Project

end Scaffold

import Scaffold.Proofs.Disk.Directories
import Scaffold.Proofs.Disk.Ways
import Scaffold.Proofs.Packaging.Success
import Scaffold.Proofs.Project.Adding

/-!
# Files that are read back

Every file of a project that was written can be read at its path below the output. What is read
there is its content, unless a later file leads to the same location: then it is the content of
that one. No two files of a project spell the same path, but a dot at the start of a path counts
when files are added, and it leads nowhere when they are written. So two files lead to the same
location exactly if their paths differ in such a dot.

## Main definitions

* `ReadBack`: what is read at a path below an output.

## Main results

* `forM_placeFile_keeps`: what is there stays while files are written elsewhere.
* `fillDirectory_leads`: the path of a file can be followed, and its content stays until another
  file is written in its place.
* `DirectoryRun.locate_output`: the path of a plain output can be followed when the output is there.
* `Project.readBack_offers`: which files lead to the same location, and what is read back.
-/

namespace Scaffold

open FileSystem (Leads maxPathBytes segments step)

variable {output unfinished parent root : Path} {name : String} {s s' : Session}

/-! ### While files are written -/

/-- When a file was written, its path can be followed from the root. -/
theorem placeFile_leads {file : ProjectFile} (hfile : file.path.isInner = true)
    (hrun : (placeFile root file : Packing Unit).run.run s = (.ok (), s')) :
    s'.files.Leads (s.files.place root) file.path := by
  obtain ⟨files, hmade, hwrite⟩ := placeFile_ok hrun
  obtain ⟨hlocate, hnamed, hfree, hfiles⟩ := FileSystem.writeFile_ok hwrite
  have hleads : files.Leads (files.place root) file.path := .of_locate_join hfile hlocate hnamed
  rw [FileSystem.place_congr hmade.workingDirectory] at hleads
  refine hleads.mono hfile fun l hat => ?_
  rw [hfiles, FileSystem.at?_put _ (FileSystem.ne_nil_of_not_directory hfree), if_neg, hat]
  intro heq
  exact hfree (heq ▸ hat)

/-- What is there stays while files are written elsewhere, and a directory stays in any case. -/
theorem forM_placeFile_keeps (h : Beside output unfinished parent name)
    {files : List ProjectFile} (hfiles : ∀ f ∈ files, f.path.isInner = true) {l : Location}
    {e : Entry} (hat : s.files.at? l = some e)
    (hother : e = .directory ∨
      ∀ f ∈ files, l ≠ s.files.place unfinished ++ f.path.location)
    (hrun : (files.forM (placeFile unfinished) : Packing Unit).run.run s = (.ok (), s')) :
    s'.files.at? l = some e := by
  induction files generalizing s with
  | nil =>
    cases hrun
    exact hat
  | cons file files ih =>
    obtain ⟨⟨⟩, s₁, hfirst, hrest⟩ := Session.bind_ok (x := placeFile unfinished file) hrun
    have hplaced := placeFile_placed h (hfiles file List.mem_cons_self) hfirst
    have hkept := hplaced.keeps hat (hother.imp_right fun hne => hne file List.mem_cons_self)
    refine ih (fun f hf => hfiles f (List.mem_cons_of_mem _ hf)) hkept ?_ hrest
    rw [FileSystem.place_congr hplaced.workingDirectory]
    exact hother.imp_right fun hne f hf => hne f (List.mem_cons_of_mem _ hf)

theorem forM_placeFile_append_cons {before after : List ProjectFile} {file : ProjectFile}
    (hrun : ((before ++ file :: after).forM (placeFile root) : Packing Unit).run.run s =
      (.ok (), s')) :
    ∃ s₁ s₂, (before.forM (placeFile root) : Packing Unit).run.run s = (.ok (), s₁) ∧
      (placeFile root file : Packing Unit).run.run s₁ = (.ok (), s₂) ∧
      (after.forM (placeFile root) : Packing Unit).run.run s₂ = (.ok (), s') := by
  induction before generalizing s with
  | nil =>
    obtain ⟨⟨⟩, s₂, hfile, hafter⟩ := Session.bind_ok (x := placeFile root file) hrun
    exact ⟨s, s₂, rfl, hfile, hafter⟩
  | cons first before ih =>
    obtain ⟨⟨⟩, s₀, hfirst, hrest⟩ := Session.bind_ok (x := placeFile root first) hrun
    obtain ⟨s₁, s₂, hbefore, hfile, hafter⟩ := ih hrest
    refine ⟨s₁, s₂, ?_, hfile, hafter⟩
    have hcons : ((first :: before).forM (placeFile root) : Packing Unit) =
        placeFile root first >>= fun _ => before.forM (placeFile root) := rfl
    rw [hcons, Session.runExcept_bind, hfirst]
    exact hbefore

/-- In a directory that was filled the path of every file can be followed; and where no later file
leads, there is the content of the file. -/
theorem fillDirectory_leads (h : Beside output unfinished parent name) {project : Project}
    (hproject : ∀ f ∈ project.files, f.path.isInner = true)
    (hrun : (fillDirectory unfinished project : Packing Unit).run.run s = (.ok (), s'))
    {before after : List ProjectFile} {file : ProjectFile}
    (hfiles : project.files = before ++ file :: after) :
    s'.files.Leads (s.files.place unfinished) file.path ∧
      ((∀ g ∈ after, g.path.location ≠ file.path.location) →
        s'.files.at? (s.files.place unfinished ++ file.path.location) =
          some (.file (.text file.content))) := by
  obtain ⟨⟨⟩, s₀, hmake, hfill⟩ := Session.bind_ok hrun
  have hmade := Storage.createDirectories_changes (fun _ => False) unfinished s
  rw [run_attempt_ok hmake] at hmade
  rw [hfiles] at hproject hfill
  obtain ⟨s₁, s₂, hbefore, hfile, hafter⟩ := forM_placeFile_append_cons hfill
  have hinner := hproject file (by simp)
  have hfront : ∀ f ∈ before, f.path.isInner = true := fun f hf => hproject f (by simp [hf])
  have hbuilt := forM_placeFile_builds h hfront s₀
  rw [hbefore] at hbuilt
  have hdir₁ := hbuilt.workingDirectory.trans hmade.workingDirectory
  have hplaced := placeFile_placed h hinner hfile
  have hleads := placeFile_leads hinner hfile
  have hdir₂ := hplaced.workingDirectory.trans hdir₁
  rw [FileSystem.place_congr hdir₁] at hplaced hleads
  have hkeeps : ∀ l e, s₂.files.at? l = some e →
      (e = .directory ∨ ∀ g ∈ after, l ≠ s.files.place unfinished ++ g.path.location) →
        s'.files.at? l = some e := by
    intro l e hat hother
    rw [← FileSystem.place_congr hdir₂] at hother
    exact forM_placeFile_keeps h (fun g hg => hproject g (by simp [hg])) hat hother hafter
  refine ⟨hleads.mono hinner fun l hat => hkeeps _ _ hat (.inl rfl), fun hlast => ?_⟩
  refine hkeeps _ _ hplaced.content (.inr fun g hg heq => ?_)
  exact hlast g hg (List.append_cancel_left heq).symm

/-! ### When the output is in its place -/

namespace FileSystem

variable {fs fs' : FileSystem}

theorem locate_of_rename {p q : Path} (h : fs.rename p q = .ok fs') :
    fs.locate q = .ok (fs.place q) := by
  rw [rename] at h
  split at h
  · cases h
  · cases h
  · next hlocate =>
    rw [hlocate, locate_eq_place hlocate]

end FileSystem

namespace Beside

variable {fs fs' : FileSystem}

/-- In front of its last segment the path of a plain output does not leave what leads to the
directory of the output. -/
theorem prefix_parent_of_front (h : Beside output unfinished parent name)
    (hplain : output.IsPlain) (fs : FileSystem) {front back : List String} {segment : String}
    (hfront : segments output = front ++ segment :: back) :
    front.foldl step (fs.start output) <+: fs.place parent := by
  obtain ⟨last, hlast, hname⟩ := hplain.exists_last
  obtain ⟨init, hinit⟩ : ∃ init, segment :: back = init ++ [last] := by
    rcases List.eq_nil_or_concat (segment :: back) with hnil | ⟨init, other, hconcat⟩
    · cases hnil
    · refine ⟨init, ?_⟩
      rw [hfront, hconcat, List.concat_eq_append, ← List.append_assoc,
        List.getLast?_concat] at hlast
      rw [hconcat, List.concat_eq_append, Option.some.inj hlast]
  have hup : ".." ∉ init := by
    intro hmem
    refine hplain.not_up ?_
    rw [hfront, hinit]
    simp [hmem]
  have hplace := h.place_output fs
  rw [FileSystem.place, hfront, hinit, ← List.append_assoc, List.foldl_append, List.foldl_cons,
    List.foldl_nil, FileSystem.step_name _ hname, List.foldl_append] at hplace
  rw [← (List.append_inj' hplace rfl).1]
  exact FileSystem.prefix_foldl_step hup _

/-- When what was built was moved to a plain output, the path of the output can be followed. -/
theorem locate_output_of_rename (h : Beside output unfinished parent name)
    (hplain : output.IsPlain) (hrename : fs.rename unfinished output = .ok fs') :
    fs'.locate output = .ok (fs.place output) := by
  have hne : fs.place unfinished ≠ fs.place output :=
    fun heq => h.not_unfinished_prefix fs (heq ▸ List.prefix_rfl)
  have hlocate := FileSystem.locate_of_rename hrename
  have hdir : (fs.move (fs.place unfinished) (fs.place output)).workingDirectory =
      fs.workingDirectory := rfl
  rw [FileSystem.rename_eq_ok hrename hne]
  refine FileSystem.locate_of_atMostMade hdir hlocate fun front segment back hfront => .inl ?_
  have hlength := (h.prefix_parent_of_front hplain fs hfront).length_le
  refine FileSystem.at?_move_of_not_prefix (fun hbelow => ?_) fun hbelow => ?_
  · have hlonger := hbelow.length_le
    rw [h.place_unfinished, List.length_append, List.length_singleton] at hlonger
    omega
  · have hlonger := hbelow.length_le
    rw [h.place_output, List.length_append, List.length_singleton] at hlonger
    omega

end Beside

/-- What is read at a path below an output after a call: the content is there, and if the path of
the output is plain, and the path is not too long with it, then it is read. -/
structure ReadBack (output p : Path) (content : String) (before after : FileSystem) : Prop where
  at?_eq : after.at? (before.place (output.join p)) = some (.file (.text content))
  readText_eq : output.IsPlain → (output.join p).text.utf8ByteSize ≤ maxPathBytes →
    after.readText (output.join p) = .ok content

namespace DirectoryRun

variable {project : Project} {cleared built : Session} {before after : List ProjectFile}
  {file : ProjectFile}

theorem workingDirectory_eq
    (r : DirectoryRun project output unfinished parent name s cleared built s') :
    s'.files.workingDirectory = s.files.workingDirectory := by
  obtain ⟨files, hchanges, hrename⟩ := r.renamed
  have hne : files.place unfinished ≠ files.place output :=
    fun heq => r.beside.not_unfinished_prefix files (heq ▸ List.prefix_rfl)
  rw [FileSystem.rename_eq_ok hrename hne]
  exact hchanges.workingDirectory.trans r.changes.workingDirectory

theorem locate_output (r : DirectoryRun project output unfinished parent name s cleared built s')
    (hplain : output.IsPlain) : s'.files.locate output = .ok (s'.files.place output) := by
  obtain ⟨files, hchanges, hrename⟩ := r.renamed
  have hlocate := r.beside.locate_output_of_rename hplain hrename
  rw [hlocate, ← FileSystem.locate_eq_place hlocate]

/-- The path of every file can be followed below the output. -/
theorem leads (r : DirectoryRun project output unfinished parent name s cleared built s')
    (hproject : ∀ f ∈ project.files, f.path.isInner = true)
    (hfiles : project.files = before ++ file :: after) :
    s'.files.Leads (s.files.place output) file.path := by
  obtain ⟨hleads, -⟩ := fillDirectory_leads r.beside hproject r.fill hfiles
  rw [FileSystem.place_congr r.workingDirectory_cleared] at hleads
  refine hleads.mono (hproject file (by simp [hfiles])) fun l hat => ?_
  rw [r.replaced.target_eq, hat]

/-- Where no later file leads, there is the content of the file. -/
theorem content (r : DirectoryRun project output unfinished parent name s cleared built s')
    (hproject : ∀ f ∈ project.files, f.path.isInner = true)
    (hfiles : project.files = before ++ file :: after)
    (hlast : ∀ g ∈ after, g.path.location ≠ file.path.location) :
    s'.files.at? (s.files.place output ++ file.path.location) =
      some (.file (.text file.content)) := by
  have hcontent := (fillDirectory_leads r.beside hproject r.fill hfiles).2 hlast
  rw [FileSystem.place_congr r.workingDirectory_cleared] at hcontent
  rw [r.replaced.target_eq, hcontent]

/-- What is at the location of a file is read at its path. -/
theorem readBack (r : DirectoryRun project output unfinished parent name s cleared built s')
    (hproject : ∀ f ∈ project.files, f.path.isInner = true)
    (hfiles : project.files = before ++ file :: after) {content : String}
    (hat : s'.files.at? (s.files.place output ++ file.path.location) =
      some (.file (.text content))) :
    ReadBack output file.path content s.files s'.files := by
  have hinner := hproject file (by simp [hfiles])
  have hroot := FileSystem.place_congr r.workingDirectory_eq output
  have hleads := r.leads hproject hfiles
  refine ⟨by rw [FileSystem.place_join hinner, hat], fun hplain hsize => ?_⟩
  rw [← hroot] at hat hleads
  exact hleads.readText_join hinner (r.locate_output hplain) hsize hat

end DirectoryRun

/-! ### Files that were added one after the other -/

/-- Of three paths inside a directory that lead to the same location two have the same
components. -/
theorem Path.components_eq_of_location_eq {p q r : Path} (hp : p.isInner = true)
    (hq : q.isInner = true) (hr : r.isInner = true) (hpq : p.location = q.location)
    (hqr : q.location = r.location) :
    p.components = q.components ∨ p.components = r.components ∨ q.components = r.components := by
  rcases components_of_isInner hp with hp | hp <;> rcases components_of_isInner hq with hq | hq <;>
    rcases components_of_isInner hr with hr | hr <;> simp [hp, hq, hr, hpq, hqr]

namespace Project

namespace WellPlaced

variable {t : Project} {f : ProjectFile} {before after : List ProjectFile}

/-- Two files of a project lead to the same location exactly if their paths differ in a dot at the
start. -/
theorem pairwise_location_eq_iff (ht : t.WellPlaced) :
    t.files.Pairwise fun f g => f.path.location = g.path.location ↔ f.path.DotApart g.path := by
  refine (List.pairwise_map.mp ht.nodup).imp_of_mem fun hf hg hne => ?_
  rw [Path.location_eq_iff (ht.inner _ hf) (ht.inner _ hg)]
  exact or_iff_right hne

/-- At most two files of a project lead to the same location. -/
theorem location_ne_of_dotApart (ht : t.WellPlaced) {middle : List ProjectFile} {g : ProjectFile}
    (hfiles : t.files = before ++ f :: (middle ++ g :: after))
    (hloc : f.path.location = g.path.location) :
    ∀ other ∈ after, other.path.location ≠ g.path.location := by
  intro other hother heq
  have hne := List.pairwise_map.mp ht.nodup
  rw [hfiles, List.pairwise_append, List.pairwise_cons, List.pairwise_append,
    List.pairwise_cons] at hne
  obtain ⟨-, ⟨hf, -, ⟨hg, -⟩, -⟩, -⟩ := hne
  have hinner : ∀ file ∈ [f, g, other], file.path.isInner = true := by
    intro file hfile
    refine ht.inner file ?_
    rw [hfiles]
    simp only [List.mem_cons, List.not_mem_nil, or_false] at hfile
    rcases hfile with rfl | rfl | rfl <;> simp [hother]
  rcases Path.components_eq_of_location_eq (hinner f (by simp)) (hinner g (by simp))
    (hinner other (by simp)) hloc heq.symm with hsame | hsame | hsame
  · exact hf g (by simp) hsame
  · exact hf other (by simp [hother]) hsame
  · exact hg other hother hsame

/-- What is read at the path of a file when the project was written. -/
theorem readBack (ht : t.WellPlaced) {cleared built : Session}
    (r : DirectoryRun t output unfinished parent name s cleared built s')
    (hfiles : t.files = before ++ f :: after) :
    ((∀ g ∈ after, ¬ f.path.DotApart g.path) →
      ReadBack output f.path f.content s.files s'.files) ∧
    ∀ g ∈ after, f.path.DotApart g.path → ReadBack output f.path g.content s.files s'.files := by
  have hlater : ∀ g ∈ after, f.path.location = g.path.location ↔ f.path.DotApart g.path := by
    have hpairs := ht.pairwise_location_eq_iff
    rw [hfiles, List.pairwise_append, List.pairwise_cons] at hpairs
    exact hpairs.2.1.1
  constructor
  · intro hapart
    refine r.readBack ht.inner hfiles (r.content ht.inner hfiles fun g hg heq => ?_)
    exact hapart g hg ((hlater g hg).mp heq.symm)
  · intro g hg hdot
    have hloc := (hlater g hg).mpr hdot
    obtain ⟨middle, rest, rfl⟩ := List.append_of_mem hg
    have hfiles' : t.files = (before ++ f :: middle) ++ g :: rest := by simp [hfiles]
    have hat := r.content ht.inner hfiles' (ht.location_ne_of_dotApart hfiles hloc)
    rw [← hloc] at hat
    exact r.readBack ht.inner hfiles hat

end WellPlaced

/-- **What is read back.** Two files of a project lead to the same location exactly if their paths
differ in a dot at the start. When the project was written as a directory, every file is read at its
path; and what is read there is its content, unless a later file leads to the same location, in
which case it is the content of that file. -/
theorem readBack_offers (calls : List ProjectFile) :
    (∀ (fs : FileSystem) (root : Path),
      (offers Project.offer .empty calls).2.files.Pairwise fun f g =>
        fs.place (root.join f.path) = fs.place (root.join g.path) ↔ f.path.DotApart g.path) ∧
    ∀ overwrite output s s',
      (OutputForm.directory.pack overwrite (offers Project.offer .empty calls).2 output).outcome s =
          (.ok (), s') →
        ∀ before f after, (offers Project.offer .empty calls).2.files = before ++ f :: after →
          ((∀ g ∈ after, ¬ f.path.DotApart g.path) →
            ReadBack output f.path f.content s.files s'.files) ∧
          ∀ g ∈ after, f.path.DotApart g.path →
            ReadBack output f.path g.content s.files s'.files := by
  have hplaced := wellPlaced_empty.offers calls
  constructor
  · intro fs root
    refine hplaced.pairwise_location_eq_iff.imp_of_mem fun hf hg hloc => ?_
    rw [FileSystem.place_join (hplaced.inner _ hf), FileSystem.place_join (hplaced.inner _ hg),
      List.append_cancel_left_eq, hloc]
  · intro overwrite output s s' hrun before f after hfiles
    obtain ⟨unfinished, parent, name, cleared, built, r⟩ := packDirectory_ok hplaced.inner hrun
    exact hplaced.readBack r hfiles

/-- Nothing but an output with two files in it. -/
def outputOfTwo (a b : String) : Session :=
  .ofFiles
    ⟨[(["out"], .directory),
      (["out", "a"], .file (.text a)),
      (["out", "b"], .file (.text b))], []⟩

theorem readBack_offers_dot :
    (OutputForm.directory.pack false
        (offers Project.offer .empty [⟨⟨"./a"⟩, "1"⟩, ⟨⟨"b"⟩, "2"⟩, ⟨⟨"a"⟩, "3"⟩]).2
        ⟨"out"⟩).outcome (.ofFiles ⟨[], []⟩) = (.ok (), outputOfTwo "3" "2") ∧
      (outputOfTwo "3" "2").files.readText ⟨"out/./a"⟩ = .ok "3" ∧
      (outputOfTwo "3" "2").files.readText ⟨"out/b"⟩ = .ok "2" := by
  have hrun : (OutputForm.directory.pack false
      (offers Project.offer .empty [⟨⟨"./a"⟩, "1"⟩, ⟨⟨"b"⟩, "2"⟩, ⟨⟨"a"⟩, "3"⟩]).2
      ⟨"out"⟩).outcome (.ofFiles ⟨[], []⟩) = (.ok (), outputOfTwo "3" "2") := by decide +kernel
  have hread := (readBack_offers _).2 _ _ _ _ hrun
  have hplain : Path.IsPlain ⟨"out"⟩ :=
    ⟨by decide +kernel, by decide +kernel, by decide +kernel, ⟨"out", by decide +kernel⟩,
      by decide +kernel⟩
  have hdot := (hread [] ⟨⟨"./a"⟩, "1"⟩ [⟨⟨"b"⟩, "2"⟩, ⟨⟨"a"⟩, "3"⟩] (by decide +kernel)).2
    ⟨⟨"a"⟩, "3"⟩ (by simp) (by decide +kernel)
  have hfree := (hread [⟨⟨"./a"⟩, "1"⟩] ⟨⟨"b"⟩, "2"⟩ [⟨⟨"a"⟩, "3"⟩] (by decide +kernel)).1
    (by decide +kernel)
  exact ⟨hrun, hdot.readText_eq hplain (by decide +kernel),
    hfree.readText_eq hplain (by decide +kernel)⟩

/-- Two files can be added whose paths lead to the same place. Both are written, and the content of
the first is lost. -/
theorem exists_readBack_lost :
    ∃ calls s', (offers Project.offer .empty calls).1 = [.ok (), .ok ()] ∧
      (OutputForm.directory.pack false (offers Project.offer .empty calls).2 ⟨"out"⟩).outcome
        (.ofFiles ⟨[], []⟩) = (.ok (), s') ∧
      ¬ ((offers Project.offer .empty calls).2.files.Pairwise fun f g =>
        s'.files.place (Path.join ⟨"out"⟩ f.path) ≠ s'.files.place (Path.join ⟨"out"⟩ g.path)) ∧
      ¬ ∀ f ∈ (offers Project.offer .empty calls).2.files,
        s'.files.readText (Path.join ⟨"out"⟩ f.path) = .ok f.content := by
  refine ⟨[⟨⟨"./a"⟩, "1"⟩, ⟨⟨"a"⟩, "2"⟩],
    .ofFiles ⟨[(["out"], .directory), (["out", "a"], .file (.text "2"))], []⟩, ?_⟩
  decide +kernel

end Project

end Scaffold

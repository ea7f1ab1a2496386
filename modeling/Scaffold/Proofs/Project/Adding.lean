import Mathlib.Data.Finset.Dedup
import Mathlib.Data.Finset.Insert
import Scaffold.Proofs.Diagram.Lookup
import Scaffold.Proofs.Path.Names
import Scaffold.Proofs.Project.Generated

/-!
# Adding files one after the other

A project is put together file by file. A file that does not fit is refused, and the next one is
added to what was there before. So the files of a project are those that were taken, in their order,
and whether a file is taken depends on nothing but the taken ones in front of it.

The spellings of the taken paths could also be kept in a set beside the files, so that a path is
looked up there. Then the two have to stay in step, over files that are taken and files that are
refused. They do, and all answers are the same.

## Main definitions

* `ProjectFile.Fits`: a file can stand beside others.
* `Project.offer`, `offers`: the answer to a file that is offered, and those to some files in turn.
* `Register`: the files of a project with the set of their paths.
* `Project.Collected`: what offering some files to the empty project comes to.

## Main results

* `Project.offer_of_fits`, `Project.offer_of_not_fits`: what is answered to one file.
* `Project.offers_files`: the files of a project are those that were taken.
* `Register.offers_ofProject`: the set of the paths stays in step with the files.
* `Project.collected_offers`: what offering files comes to.
-/

namespace Scaffold

/-! ### One file -/

/-- A file can stand beside others: its path is not empty and has nothing but names and dots in it,
and none of the others spells the same path. -/
structure ProjectFile.Fits (f : ProjectFile) (others : List ProjectFile) : Prop where
  nonempty : f.path.text ≠ ""
  inside : ∀ c ∈ f.path.components, c = .current ∨ ∃ n, c = .name n
  free : ∀ g ∈ others, g.path.components ≠ f.path.components

theorem ProjectFile.fits_iff {f : ProjectFile} {others : List ProjectFile} :
    f.Fits others ↔
      f.path.isInner = true ∧ ∀ g ∈ others, g.path.components ≠ f.path.components := by
  rw [Path.isInner_iff]
  exact ⟨fun h => ⟨⟨h.nonempty, h.inside⟩, h.free⟩, fun ⟨⟨h, h'⟩, h''⟩ => ⟨h, h', h''⟩⟩

/-- The answer to a file, and what there is afterwards. -/
abbrev Offer (σ : Type) := σ → ProjectFile → Except PlacementError Unit × σ

namespace Project

variable {t : Project} {f : ProjectFile}

/-- A file is offered to a project. If it cannot be added, then the project stays as it is. -/
def offer : Offer Project := fun t f =>
  match t.add f.path f.content with
  | .ok t' => (.ok (), t')
  | .error e => (.error e, t)

theorem find?_isSome_iff (t : Project) (p : Path) :
    (t.find? p).isSome = true ↔ ∃ g ∈ t.files, g.path.components = p.components := by
  simp [find?, Path.same]

theorem offer_of_fits (h : f.Fits t.files) : t.offer f = (.ok (), ⟨t.files ++ [f]⟩) := by
  obtain ⟨hinner, hfree⟩ := ProjectFile.fits_iff.mp h
  have hnone : ¬ (t.find? f.path).isSome = true := by
    rw [find?_isSome_iff]
    rintro ⟨g, hg, hsame⟩
    exact hfree g hg hsame
  rw [offer, add, if_neg (by simp [hinner]), if_neg hnone]

/-- A file that leads outside is refused for that, and any other because its path is taken. -/
theorem offer_of_not_fits (h : ¬ f.Fits t.files) :
    t.offer f = (.error (.outside f.path), t) ∧ f.path.isInner = false ∨
      t.offer f = (.error (.duplicate f.path), t) ∧ f.path.isInner = true ∧
        ∃ g ∈ t.files, g.path.components = f.path.components := by
  by_cases hinner : f.path.isInner = true
  · right
    have htaken : ∃ g ∈ t.files, g.path.components = f.path.components := by
      by_contra hfree
      refine h (ProjectFile.fits_iff.mpr ⟨hinner, fun g hg hsame => hfree ⟨g, hg, hsame⟩⟩)
    refine ⟨?_, hinner, htaken⟩
    rw [offer, add, if_neg (by simp [hinner]), if_pos ((t.find?_isSome_iff f.path).mpr htaken)]
  · left
    rw [Bool.not_eq_true] at hinner
    refine ⟨?_, hinner⟩
    rw [offer, add, if_pos (by simp [hinner])]

theorem offer_eq_ok_iff : (t.offer f).1 = .ok () ↔ f.Fits t.files := by
  by_cases h : f.Fits t.files
  · simp [offer_of_fits h, h]
  · rcases offer_of_not_fits h with ⟨hrefused, -⟩ | ⟨hrefused, -⟩ <;> simp [hrefused, h]

theorem offer_of_error {e : PlacementError} (h : (t.offer f).1 = .error e) :
    (t.offer f).2 = t := by
  by_cases hfits : f.Fits t.files
  · rw [offer_of_fits hfits] at h
    cases h
  · rcases offer_of_not_fits hfits with ⟨hrefused, -⟩ | ⟨hrefused, -⟩ <;> rw [hrefused]

/-- A project stays well placed, whatever is offered to it. -/
theorem WellPlaced.offer (ht : t.WellPlaced) (f : ProjectFile) : (t.offer f).2.WellPlaced := by
  rw [Project.offer]
  cases hadd : t.add f.path f.content with
  | error e => exact ht
  | ok t' => exact ht.add hadd

end Project

/-! ### Some files in turn -/

/-- The answers to some files that are offered one after the other, and what there is afterwards. -/
def offers {σ : Type} (offer : Offer σ) :
    σ → List ProjectFile → List (Except PlacementError Unit) × σ
  | s, [] => ([], s)
  | s, f :: files =>
    let rest := offers offer (offer s f).2 files
    ((offer s f).1 :: rest.1, rest.2)

section

variable {σ : Type} (offer : Offer σ) (s : σ) (f : ProjectFile) (files files' : List ProjectFile)

@[simp] theorem offers_nil : offers offer s [] = ([], s) := rfl

@[simp] theorem offers_cons :
    offers offer s (f :: files) =
      ((offer s f).1 :: (offers offer (offer s f).2 files).1,
        (offers offer (offer s f).2 files).2) := rfl

@[simp] theorem length_offers : (offers offer s files).1.length = files.length := by
  induction files generalizing s with
  | nil => rfl
  | cons f files ih => simp [ih]

theorem offers_append :
    offers offer s (files ++ files') =
      ((offers offer s files).1 ++ (offers offer (offers offer s files).2 files').1,
        (offers offer (offers offer s files).2 files').2) := by
  induction files generalizing s with
  | nil => rfl
  | cons f files ih => simp [ih]

/-- What is answered to a file depends on the files in front of it. -/
theorem getElem?_offers :
    (offers offer s (files ++ f :: files')).1[files.length]? =
      some (offer (offers offer s files).2 f).1 := by
  rw [offers_append, List.getElem?_append_right (by simp)]
  simp

end

/-- The files that were taken, by the answers to them. -/
def takenFiles (files : List ProjectFile) (answers : List (Except PlacementError Unit)) :
    List ProjectFile :=
  (files.zip answers).filterMap fun (f, answer) => if answer.isOk then some f else none

theorem takenFiles_cons (f : ProjectFile) (files : List ProjectFile)
    (answer : Except PlacementError Unit) (answers : List (Except PlacementError Unit)) :
    takenFiles (f :: files) (answer :: answers) =
      if answer.isOk then f :: takenFiles files answers else takenFiles files answers := by
  by_cases hok : answer.isOk = true <;> simp [takenFiles, hok]

/-- The files that were taken among the first ones depend on the answers to these. -/
theorem takenFiles_offers_append {σ : Type} (offer : Offer σ) (s : σ)
    (before after : List ProjectFile) :
    takenFiles before (offers offer s (before ++ after)).1 =
      takenFiles before (offers offer s before).1 := by
  induction before generalizing s with
  | nil => rfl
  | cons f before ih =>
    rw [List.cons_append, offers_cons, offers_cons, takenFiles_cons, takenFiles_cons, ih]

namespace Project

variable {t : Project}

/-- The files of a project are those that were there before and those that were taken. -/
theorem offers_files (t : Project) (files : List ProjectFile) :
    (offers offer t files).2.files = t.files ++ takenFiles files (offers offer t files).1 := by
  induction files generalizing t with
  | nil => simp [takenFiles]
  | cons f files ih =>
    rw [offers_cons, ih, takenFiles_cons]
    by_cases hfits : f.Fits t.files
    · rw [offer_of_fits hfits]
      exact List.append_assoc t.files [f] _
    · rcases offer_of_not_fits hfits with ⟨hrefused, -⟩ | ⟨hrefused, -⟩ <;> rw [hrefused] <;> rfl

theorem WellPlaced.offers (ht : t.WellPlaced) (files : List ProjectFile) :
    (offers Project.offer t files).2.WellPlaced := by
  induction files generalizing t with
  | nil => exact ht
  | cons f files ih => exact ih (ht.offer f)

/-- No two files of a well placed project spell the same path. -/
theorem WellPlaced.nodup (ht : t.WellPlaced) : (t.files.map fun f => f.path.components).Nodup := by
  rw [List.Nodup, List.pairwise_map]
  refine ht.apart.imp fun hapart => ?_
  simpa [Path.same] using hapart

/-- What is found at a path is the content of the file that spells it. -/
theorem WellPlaced.get?_eq_some_iff (ht : t.WellPlaced) {p : Path} {content : String} :
    t.get? p = some content ↔
      ∃ f ∈ t.files, f.path.components = p.components ∧ f.content = content := by
  have hfind : ∀ f, t.find? p = some f ↔ f ∈ t.files ∧ f.path.components = p.components := by
    intro f
    exact find?_key_eq_some_iff ht.nodup
  simp only [get?, Option.map_eq_some_iff, hfind, and_assoc]

end Project

/-! ### Paths in a set of their own -/

/-- The files of a project, and the spellings of their paths in a set. -/
structure Register where
  files : List ProjectFile
  paths : Finset (List Component)

namespace Register

/-- The register without files. -/
def empty : Register := ⟨[], ∅⟩

/-- A file is offered to a register: its path is entered in the set, and the file is refused if the
path was there before. -/
def offer : Offer Register := fun r f =>
  if !f.path.isInner then (.error (.outside f.path), r)
  else
    let entered := { r with paths := insert f.path.components r.paths }
    if f.path.components ∈ r.paths then (.error (.duplicate f.path), entered)
    else (.ok (), { entered with files := r.files ++ [f] })

/-- The register of a project. -/
def ofProject (t : Project) : Register :=
  ⟨t.files, (t.files.map fun f => f.path.components).toFinset⟩

theorem mem_paths_ofProject {t : Project} {components : List Component} :
    components ∈ (ofProject t).paths ↔ ∃ g ∈ t.files, g.path.components = components := by
  simp [ofProject]

/-- The set of the paths stays in step with the files over one file. -/
theorem offer_ofProject (t : Project) (f : ProjectFile) :
    (ofProject t).offer f = ((t.offer f).1, ofProject (t.offer f).2) := by
  by_cases hfits : f.Fits t.files
  · obtain ⟨hinner, hfree⟩ := ProjectFile.fits_iff.mp hfits
    have hnew : f.path.components ∉ (ofProject t).paths := by
      rw [mem_paths_ofProject]
      rintro ⟨g, hg, hsame⟩
      exact hfree g hg hsame
    have hentered : insert f.path.components (ofProject t).paths =
        (ofProject ⟨t.files ++ [f]⟩).paths := by
      ext components
      rw [Finset.mem_insert, mem_paths_ofProject, mem_paths_ofProject, or_comm,
        @eq_comm _ components]
      simp only [List.mem_append, List.mem_singleton, or_and_right, exists_or, exists_eq_left]
    rw [Project.offer_of_fits hfits, offer, if_neg (by simp [hinner])]
    dsimp only
    rw [if_neg hnew, hentered]
    rfl
  · rcases Project.offer_of_not_fits hfits with ⟨hrefused, houtside⟩ | ⟨hrefused, hinner, htaken⟩
    · rw [hrefused, offer, if_pos (by simp [houtside])]
    · have hold := mem_paths_ofProject.mpr htaken
      rw [hrefused, offer, if_neg (by simp [hinner])]
      dsimp only
      rw [if_pos hold, Finset.insert_eq_of_mem hold]

/-- The set of the paths stays in step with the files, and all answers are the same. -/
theorem offers_ofProject (t : Project) (files : List ProjectFile) :
    offers offer (ofProject t) files =
      ((offers Project.offer t files).1, ofProject (offers Project.offer t files).2) := by
  induction files generalizing t with
  | nil => rfl
  | cons f files ih => rw [offers_cons, offers_cons, offer_ofProject, ih]

end Register

/-! ### What offering files comes to -/

/-- The answers to some files that are offered to the empty project one after the other, and the
project that there is afterwards. -/
structure Project.Collected (files : List ProjectFile)
    (answers : List (Except PlacementError Unit)) (t : Project) : Prop where
  /-- A file is taken exactly if it fits beside the files in front of it that were taken. -/
  taken_iff : ∀ before f after, files = before ++ f :: after →
    (answers[before.length]? = some (.ok ()) ↔ f.Fits (takenFiles before answers))
  /-- Any other file is refused, because it leads outside or because its path is taken. -/
  refused : ∀ before f after, files = before ++ f :: after →
    ¬ f.Fits (takenFiles before answers) →
      answers[before.length]? = some (.error (.outside f.path)) ∧ f.path.isInner = false ∨
      answers[before.length]? = some (.error (.duplicate f.path)) ∧ f.path.isInner = true
  /-- A file that is refused changes neither the project nor any answer behind it. -/
  unchanged : ∀ before f after e, files = before ++ f :: after →
    answers[before.length]? = some (.error e) →
      (offers Project.offer .empty (before ++ [f])).2 = (offers Project.offer .empty before).2 ∧
      offers Project.offer .empty (before ++ after) = (answers.eraseIdx before.length, t)
  /-- The files of the project are those that were taken, in their order. -/
  files_eq : t.files = takenFiles files answers
  /-- No two of them spell the same path. -/
  apart : t.files.Pairwise fun f g => f.path.components ≠ g.path.components
  /-- What is found at a path is the content of the file that spells it. -/
  get?_eq_some_iff : ∀ p content, t.get? p = some content ↔
    ∃ f ∈ t.files, f.path.components = p.components ∧ f.content = content

/-- **What offering files comes to.** A file is taken exactly if it fits beside the files that were
taken before; one that is refused changes nothing; and what the project has in the end is what was
taken, in order, each file at its own path and found there under every spelling. It makes no
difference whether the taken paths are looked up in the files or in a set of their own. -/
theorem Project.collected_offers (files : List ProjectFile) :
    Collected files (offers Project.offer .empty files).1 (offers Project.offer .empty files).2 ∧
      offers Register.offer .empty files =
        ((offers Project.offer .empty files).1,
          Register.ofProject (offers Project.offer .empty files).2) := by
  have hplaced := wellPlaced_empty.offers files
  have htaken : ∀ before rest,
      takenFiles before (offers Project.offer .empty (before ++ rest)).1 =
        (offers Project.offer .empty before).2.files := by
    intro before rest
    rw [takenFiles_offers_append, offers_files]
    rfl
  refine ⟨⟨?_, ?_, ?_, ?_, ?_, fun p content => hplaced.get?_eq_some_iff⟩,
    Register.offers_ofProject .empty files⟩
  · rintro before f after rfl
    rw [getElem?_offers, htaken, Option.some.injEq, offer_eq_ok_iff]
  · rintro before f after rfl hfits
    rw [htaken] at hfits
    rw [getElem?_offers]
    rcases offer_of_not_fits hfits with ⟨hrefused, houtside⟩ | ⟨hrefused, hinner, -⟩
    · exact .inl ⟨by rw [hrefused], houtside⟩
    · exact .inr ⟨by rw [hrefused], hinner⟩
  · rintro before f after e rfl hanswer
    rw [getElem?_offers, Option.some.injEq] at hanswer
    have hsame := offer_of_error hanswer
    refine ⟨by simp [offers_append, hsame], ?_⟩
    have hlength : (offers Project.offer .empty before).1.length = before.length :=
      length_offers _ _ _
    rw [offers_append, offers_append, offers_cons, hsame, ← hlength,
      List.eraseIdx_append_of_length_le le_rfl]
    simp
  · rw [offers_files]
    rfl
  · exact List.pairwise_map.mp hplaced.nodup

/-- A dot at the start makes another path, and a dot further on does not. -/
example :
    (offers Project.offer .empty
      [⟨⟨"a/b"⟩, "1"⟩, ⟨⟨"a//./b/"⟩, "2"⟩, ⟨⟨"./a/b"⟩, "3"⟩, ⟨⟨"../a"⟩, "4"⟩]).1 =
      [.ok (), .error (.duplicate ⟨"a//./b/"⟩), .ok (), .error (.outside ⟨"../a"⟩)] := by
  decide +kernel

end Scaffold

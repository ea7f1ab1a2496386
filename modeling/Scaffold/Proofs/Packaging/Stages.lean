import Scaffold.Proofs.Packaging.Steps

/-!
# Stages of packaging

A directory and an archive are packed in the same stages: an output that is there is refused, the
new output is built beside it and dropped again if that fails, and then it takes the place of the
old one. Only in the last stage can a failure leave behind what was built.

## Main definitions

* `guardOutput`, `clearUnfinished`, `makeParent`, `replaceOutput`: the stages.
* `LeftClean`, `Tidy`: what a failure before the last stage does to the files.
* `Confined`: what a call may do to the files elsewhere.
* `BuildsBeside`: what the building of an output does.

## Main results

* `packDirectory_eq`, `packArchive_eq`: packing in stages.
* `orDrop_error`, `replaceOutput_error`: what a failure does from the building on.
-/

namespace Scaffold

/-- An output that is there is refused unless it may be replaced. -/
def guardOutput (overwrite : Bool) (refusal : PackagingError) (output : Path) : Packing Unit := do
  if (← isThere output) && !overwrite then
    throw refusal

/-- What is at the place beside an output is removed. -/
def clearUnfinished (unfinished : Path) : Packing Unit := do
  if ← isThere unfinished then
    attempt (.removingUnfinished unfinished) (Storage.removeTree unfinished)

/-- The directory of an output is made. -/
def makeParent (output : Path) : Packing Unit :=
  match output.parent? with
  | none => pure ()
  | some parent =>
    if parent.text != "" then
      attempt (.creatingDirectory parent) (Storage.createDirectories parent)
    else pure ()

/-- An old output is removed and the new one is moved into its place. -/
def replaceOutput (explain : DiskError → PackagingError)
    (remove : Path → StateM Session (Except DiskError Unit)) (unfinished output : Path) :
    Packing Unit := do
  if ← isThere output then
    attempt explain (remove output)
  attempt (.moving unfinished output) (Storage.rename unfinished output)

theorem packDirectory_eq (overwrite : Bool) (project : Project) (output : Path) :
    (packDirectory overwrite project output : Packing Unit) =
      guardOutput overwrite (.directoryExists output) output >>= fun _ =>
        ExceptT.mk (pure (unfinishedPath output)) >>= fun unfinished =>
          clearUnfinished unfinished >>= fun _ =>
            orDrop unfinished (fillDirectory unfinished project) >>= fun _ =>
              replaceOutput (.removingDirectory output) Storage.removeTree unfinished output := by
  simp only [packDirectory, guardOutput, clearUnfinished, replaceOutput, bind_assoc]
  congr
  funext there
  split
  · simp
  · simp only [pure_bind]
    congr
    funext unfinished
    congr
    funext there'
    split <;> simp

theorem packArchive_eq (overwrite : Bool) (root : String) (project : Project) (output : Path) :
    (packArchive overwrite root project output : Packing Unit) =
      guardOutput overwrite (.archiveExists output) output >>= fun _ =>
        makeParent output >>= fun _ =>
          ExceptT.mk (pure (unfinishedPath output)) >>= fun unfinished =>
            orDrop unfinished (attempt (.creatingArchive unfinished)
              (Storage.writeArchive unfinished (project.toEntries root))) >>= fun _ =>
              replaceOutput (.removingArchive output) Storage.removeFile unfinished output := by
  simp only [packArchive, guardOutput, makeParent, replaceOutput, bind_assoc]
  congr
  funext there
  split
  · simp
  · simp only [pure_bind]
    cases output.parent? with
    | none => simp
    | some parent =>
      dsimp only
      split <;> simp

/-! ### What a failure leaves -/

/-- There is nothing at a location, or it and everything below it is as it was. -/
def LeftClean (l : Location) (before after : FileSystem) : Prop :=
  after.at? l = none ∨ ∀ l', l <+: l' → after.at? l' = before.at? l'

/-- Nothing but what is at and below a place was changed, except that directories were made on some
ways. Unless a way leads through the place, it is left clean. -/
structure Tidy (root : Location) (ways : Location → Prop) (before after : FileSystem) : Prop
    extends Changes (root <+: ·) ways before after where
  leftClean : ¬ ways root → LeftClean root before after

namespace Tidy

variable {root : Location} {ways : Location → Prop} {a b c : FileSystem}

theorem rfl : Tidy root ways a a :=
  ⟨.rfl, fun _ => .inr fun _ _ => Eq.refl _⟩

theorem trans (h : Tidy root ways a b) (h' : Tidy root ways b c) : Tidy root ways a c := by
  refine ⟨h.toChanges.trans h'.toChanges, fun hroot => ?_⟩
  rcases h'.leftClean hroot with hnone | hsame
  · exact .inl hnone
  · rcases h.leftClean hroot with hnone | hsame'
    · exact .inl ((hsame root List.prefix_rfl).trans hnone)
    · exact .inr fun l hl => (hsame l hl).trans (hsame' l hl)

/-- Directories made on ways that lead into the place only through it leave it clean. -/
theorem of_changes (h : Changes (fun _ => False) ways a b)
    (hways : ∀ l, root <+: l → ways l → ways root) : Tidy root ways a b := by
  refine ⟨h.mono (fun _ => False.elim) fun _ _ => id, fun hroot => .inr fun l hl => ?_⟩
  exact (h.outside l not_false).resolve_right fun hway => hroot (hways l hl hway.1)

theorem erase (a : FileSystem) (hroot : root ≠ []) : Tidy root ways a (a.erase root) := by
  refine ⟨⟨Eq.refl _, fun l hl => .inl ?_⟩, fun _ => .inl ?_⟩
  · exact a.at?_erase_of_not_prefix hl
  · exact a.at?_erase_self hroot

end Tidy

/-! ### The stages before the building -/

theorem guardOutput_error {overwrite : Bool} {refusal e : PackagingError} {output : Path}
    {s s' : Session} (h : (guardOutput overwrite refusal output).run.run s = (.error e, s')) :
    e = refusal ∧ s' = s := by
  rw [guardOutput, Session.runExcept_bind, run_isThere] at h
  dsimp only at h
  split_ifs at h
  · cases h
    exact ⟨rfl, rfl⟩
  · cases h

theorem guardOutput_ok {overwrite : Bool} {refusal : PackagingError} {output : Path}
    {s s' : Session} (h : (guardOutput overwrite refusal output).run.run s = (.ok (), s')) :
    s' = s := by
  rw [guardOutput, Session.runExcept_bind, run_isThere] at h
  dsimp only at h
  split_ifs at h
  · cases h
  · cases h
    rfl

theorem unfinishedPath_error {output : Path} {s s' : Session} {e : PackagingError}
    (h : (ExceptT.mk (pure (unfinishedPath output)) : Packing Path).run.run s = (.error e, s')) :
    e = .noFileName output ∧ s' = s ∧ unfinishedPath? output = none := by
  have hrun : (ExceptT.mk (pure (unfinishedPath output)) : Packing Path).run.run s =
      (unfinishedPath output, s) := rfl
  rw [hrun, unfinishedPath] at h
  cases hpath : unfinishedPath? output with
  | none =>
    rw [hpath] at h
    cases h
    exact ⟨rfl, rfl, rfl⟩
  | some unfinished =>
    rw [hpath] at h
    cases h

theorem unfinishedPath_ok {output unfinished : Path} {s s' : Session}
    (h : (ExceptT.mk (pure (unfinishedPath output)) : Packing Path).run.run s =
      (.ok unfinished, s')) :
    s' = s ∧ unfinishedPath? output = some unfinished := by
  have hrun : (ExceptT.mk (pure (unfinishedPath output)) : Packing Path).run.run s =
      (unfinishedPath output, s) := rfl
  rw [hrun, unfinishedPath] at h
  cases hpath : unfinishedPath? output with
  | none =>
    rw [hpath] at h
    cases h
  | some unfinished' =>
    rw [hpath] at h
    cases h
    exact ⟨rfl, rfl⟩

section

variable {output unfinished parent : Path} {name : String}

theorem Beside.place_unfinished_ne_nil (h : Beside output unfinished parent name)
    (fs : FileSystem) : fs.place unfinished ≠ [] := by
  rw [h.place_unfinished]
  simp

/-- What is at the place beside an output is removed, or nothing happens. -/
theorem clearUnfinished_cases (h : Beside output unfinished parent name)
    (ways : Location → Prop) (s : Session) :
    (∃ s', (clearUnfinished unfinished).run.run s = (.ok (), s') ∧
      Tidy (s.files.place unfinished) ways s.files s'.files) ∨
    ∃ e, (clearUnfinished unfinished).run.run s =
      (.error (.removingUnfinished unfinished e), s) := by
  rw [clearUnfinished, Session.runExcept_bind, run_isThere]
  dsimp only
  split_ifs with hthere
  · obtain ⟨e, hstat⟩ := Option.isSome_iff_exists.mp hthere
    obtain ⟨l, hlook⟩ := FileSystem.stat?_eq_some_iff.mp hstat
    obtain rfl := FileSystem.locate_eq_place (FileSystem.look_eq_ok hlook).1
    have hrun : (Storage.removeTree unfinished : StateM Session _).run s =
        ((s.files.removeTree unfinished).1,
          { s with files := (s.files.removeTree unfinished).2 }) := rfl
    rw [run_attempt]
    cases e with
    | directory =>
      rw [FileSystem.removeTree_of_look hlook h.getLast?_segments
        (isName_unfinishedName name)] at hrun
      rw [hrun]
      exact .inl ⟨_, rfl, .erase _ (h.place_unfinished_ne_nil _)⟩
    | file content =>
      have hrefused : s.files.removeTree unfinished = (.error .notDirectory, s.files) := by
        rw [FileSystem.removeTree, hlook]
      rw [hrefused] at hrun
      rw [hrun]
      exact .inr ⟨_, rfl⟩
  · exact .inl ⟨s, rfl, .rfl⟩

theorem clearUnfinished_error (h : Beside output unfinished parent name) {s s' : Session}
    {e : PackagingError}
    (hrun : (clearUnfinished unfinished).run.run s = (.error e, s')) :
    (∃ cause, e = .removingUnfinished unfinished cause) ∧ s' = s := by
  rcases clearUnfinished_cases h (fun _ => False) s with ⟨s₁, hok, -⟩ | ⟨cause, herror⟩
  · cases hok.symm.trans hrun
  · cases herror.symm.trans hrun
    exact ⟨⟨cause, rfl⟩, rfl⟩

theorem clearUnfinished_ok (h : Beside output unfinished parent name) (ways : Location → Prop)
    {s s' : Session} (hrun : (clearUnfinished unfinished).run.run s = (.ok (), s')) :
    Tidy (s.files.place unfinished) ways s.files s'.files := by
  rcases clearUnfinished_cases h ways s with ⟨s₁, hok, htidy⟩ | ⟨cause, herror⟩
  · cases hok.symm.trans hrun
    exact htidy
  · cases herror.symm.trans hrun

end

/-- The locations in front of an output, which its path leads through. -/
def FileSystem.InFrontOf (fs : FileSystem) (output : Path) (l : Location) : Prop :=
  ∃ parent, output.parent? = some parent ∧ fs.OnWay parent l

theorem Beside.inFrontOf_iff {output unfinished parent : Path} {name : String}
    (h : Beside output unfinished parent name) {fs : FileSystem} {l : Location} :
    fs.InFrontOf output l ↔ fs.OnWay parent l := by
  simp [FileSystem.InFrontOf, h.parent?_eq]

/-- Apart from an output and the place beside it, nothing was changed but that directories were made
in front of the output. -/
def Confined (output : Path) (before after : FileSystem) : Prop :=
  ∀ l, ¬ before.place output <+: l →
    (∀ unfinished, unfinishedPath? output = some unfinished → ¬ before.place unfinished <+: l) →
    after.at? l = before.at? l ∨
      before.InFrontOf output l ∧ before.at? l = none ∧ after.at? l = some .directory

/-- Making the directory of an output makes nothing but directories in front of it. -/
theorem makeParent_changes (output : Path) (s : Session) :
    Changes (fun _ => False) (s.files.InFrontOf output) s.files
      ((makeParent output).run.run s).2.files := by
  rw [makeParent]
  split
  · exact .rfl
  · next parent hparent =>
    split_ifs
    · rw [run_attempt]
      have hchanges := Storage.createDirectories_changes (fun _ => False) parent s
      exact hchanges.mono (fun _ => id) fun l _ hl => ⟨parent, hparent, hl⟩
    · exact .rfl

theorem makeParent_error {output : Path} {s s' : Session} {e : PackagingError}
    (h : (makeParent output).run.run s = (.error e, s')) :
    ∃ parent cause, e = .creatingDirectory parent cause := by
  rw [makeParent] at h
  split at h
  · cases h
  · next parent hparent =>
    split_ifs at h
    · obtain ⟨cause, rfl, -⟩ := run_attempt_error h
      exact ⟨parent, cause, rfl⟩
    · cases h

/-! ### The building and what is behind it -/

/-- An error in the building of an output. -/
def PackagingError.isBuilding : PackagingError → Bool
  | .creatingDirectory _ _ | .writingFile _ _ | .creatingArchive _ _ => true
  | _ => false

/-- An output is built at the place beside it, and nothing else is changed but that directories are
made on the way there. What was built is there and, unless the way leads through that place, it is
found. What is not found of a building that failed was not built. -/
structure BuildsBeside (unfinished parent : Path) (build : Packing Unit) (s : Session) :
    Prop where
  changes : ∀ result s', build.run.run s = (result, s') →
    Changes (s.files.place unfinished <+: ·) (s.files.OnWay parent) s.files s'.files
  built : ∀ s', build.run.run s = (.ok (), s') →
    (s'.files.at? (s.files.place unfinished)).isSome
  found : ∀ s', build.run.run s = (.ok (), s') →
    ¬ s.files.OnWay parent (s.files.place unfinished) → (s'.files.stat? unfinished).isSome
  isBuilding : ∀ e s', build.run.run s = (.error e, s') → e.isBuilding = true
  leftClean : ∀ e s', build.run.run s = (.error e, s') →
    ¬ s.files.OnWay parent (s.files.place unfinished) → s'.files.stat? unfinished = none →
      LeftClean (s.files.place unfinished) s.files s'.files

/-- A building that fails is dropped, so that nothing new is left of it. -/
theorem orDrop_error {output unfinished parent : Path} {name : String}
    (h : Beside output unfinished parent name) {build : Packing Unit} {s s' : Session}
    {e : PackagingError} (hbuilds : BuildsBeside unfinished parent build s)
    (hrun : (orDrop unfinished build).run.run s = (.error e, s')) :
    e.isBuilding = true ∧
      Tidy (s.files.place unfinished) (s.files.OnWay parent) s.files s'.files := by
  rcases hbuild : build.run.run s with ⟨e' | ⟨⟨⟩⟩, s₁⟩
  · cases (run_orDrop_error hbuild).symm.trans hrun
    refine ⟨hbuilds.isBuilding _ _ hbuild, ?_⟩
    have hbuilt := hbuilds.changes _ _ hbuild
    have hplace := FileSystem.place_congr hbuilt.workingDirectory unfinished
    rcases dropUnfinished_files h.getLast?_segments (isName_unfinishedName name) s₁ with
      ⟨hnone, hfiles⟩ | ⟨-, hfiles⟩
    · rw [hfiles]
      exact ⟨hbuilt, fun hroot => hbuilds.leftClean _ _ hbuild hroot hnone⟩
    · rw [hfiles, hplace]
      have hne := h.place_unfinished_ne_nil s.files
      have herase : Tidy (s.files.place unfinished) (s.files.OnWay parent) s₁.files _ :=
        .erase s₁.files hne
      exact ⟨hbuilt.trans herase.toChanges, fun _ => .inl (s₁.files.at?_erase_self hne)⟩
  · cases (run_orDrop_ok hbuild).symm.trans hrun

theorem orDrop_ok {unfinished : Path} {build : Packing Unit} {s s' : Session}
    (hrun : (orDrop unfinished build).run.run s = (.ok (), s')) :
    build.run.run s = (.ok (), s') := by
  rcases hbuild : build.run.run s with ⟨e | ⟨⟨⟩⟩, s₁⟩
  · cases (run_orDrop_error hbuild).symm.trans hrun
  · exact (run_orDrop_ok hbuild).symm.trans hrun

/-- The last stage, if it fails, leaves everything that removing the old output leaves. -/
theorem replaceOutput_error {explain : DiskError → PackagingError}
    {remove : Path → StateM Session (Except DiskError Unit)} {unfinished output : Path}
    {s s' : Session} {e : PackagingError} {l : Location}
    (hrun : (replaceOutput explain remove unfinished output).run.run s = (.error e, s'))
    (hremove : ((remove output).run s).2.files.at? l = s.files.at? l) :
    ((∃ cause, e = explain cause) ∨ ∃ cause, e = .moving unfinished output cause) ∧
      s'.files.at? l = s.files.at? l := by
  have hmove : ∀ s₁ : Session, (attempt (.moving unfinished output)
      (Storage.rename unfinished output) : Packing Unit).run.run s₁ = (.error e, s') →
      (∃ cause, e = .moving unfinished output cause) ∧ s' = s₁ := by
    intro s₁ hrun
    rcases run_attempt_change (.moving unfinished output) (·.rename unfinished output) s₁ with
      ⟨files, -, hrun'⟩ | ⟨cause, -, hrun'⟩
    · cases hrun'.symm.trans hrun
    · cases hrun'.symm.trans hrun
      exact ⟨⟨cause, rfl⟩, rfl⟩
  rw [replaceOutput, Session.runExcept_bind, run_isThere] at hrun
  dsimp only at hrun
  split_ifs at hrun
  · rw [Session.runExcept_bind, run_attempt] at hrun
    cases hresult : ((remove output).run s).1 with
    | ok a =>
      rw [hresult] at hrun
      obtain ⟨hcause, rfl⟩ := hmove _ hrun
      exact ⟨.inr hcause, hremove⟩
    | error cause =>
      rw [hresult] at hrun
      cases hrun
      exact ⟨.inl ⟨cause, rfl⟩, hremove⟩
  · obtain ⟨hcause, rfl⟩ := hmove s hrun
    exact ⟨.inr hcause, rfl⟩

end Scaffold

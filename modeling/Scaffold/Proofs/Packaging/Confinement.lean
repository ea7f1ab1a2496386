import Scaffold.Proofs.Packaging.Success

/-!
# What packaging leaves alone

Whether or not a call goes through, it changes nothing but what is at the output and at the place
beside it, except that it makes directories in front of the output. If something is found at the
output and must not be replaced, then nothing is changed at all; and what is at the output is only
changed when the new output is complete. So there are few ways in which a file that was there before
can be lost.

## Main results

* `pack_refused`: an output that is there is refused.
* `pack_confined`: what a call may change.
* `pack_keeps_file`: which files may be lost.
-/

namespace Scaffold

variable {form : OutputForm} {overwrite : Bool} {project : Project} {output : Path}
  {s s' : Session} {e : PackagingError} {result : Except PackagingError Unit} {l : Location}

theorem run_guardOutput_refused {refusal : PackagingError}
    (hthere : (s.files.stat? output).isSome = true) :
    (guardOutput false refusal output).run.run s = (.error refusal, s) := by
  rw [guardOutput, Session.runExcept_bind, run_isThere, hthere]
  rfl

/-- The error with which an output of a form is refused that is there. -/
def OutputForm.refusal : OutputForm → Path → PackagingError
  | .directory => .directoryExists
  | .archive _ => .archiveExists

/-- An output that is found is refused if it must not be replaced, and nothing is done. -/
theorem pack_refused (hthere : (s.files.stat? output).isSome = true) :
    (form.pack false project output).outcome s = (.error (form.refusal output), s) := by
  have hguard : ∀ (refusal : PackagingError) (rest : Unit → Packing Unit),
      (guardOutput false refusal output >>= rest).run.run s = (.error refusal, s) := by
    intro refusal rest
    rw [Session.runExcept_bind, run_guardOutput_refused hthere]
  cases form with
  | directory =>
    rw [OutputForm.pack, Packing.outcome, packDirectory_eq]
    exact hguard _ _
  | archive root =>
    rw [OutputForm.pack, Packing.outcome, packArchive_eq]
    exact hguard _ _

theorem pack_failure (hproject : ∀ f ∈ project.files, f.path.isInner = true)
    (hrun : (form.pack overwrite project output).outcome s = (.error e, s')) :
    FailureKnown form output e s.files s'.files := by
  cases form with
  | directory => exact packDirectory_failure hproject hrun
  | archive root => exact packArchive_failure hrun

/-- A call changes nothing but what is at the output and beside it, whatever comes of it. -/
theorem pack_confined (hproject : ∀ f ∈ project.files, f.path.isInner = true)
    (hrun : (form.pack overwrite project output).outcome s = (result, s')) :
    Confined output s.files s'.files := by
  cases result with
  | error e =>
    rcases pack_failure hproject hrun with ⟨-, hearly⟩ | ⟨-, hlate⟩
    · exact fun l _ hbeside => hearly.outside hbeside
    · exact hlate.confined
  | ok a =>
    cases form with
    | directory =>
      obtain ⟨unfinished, parent, name, cleared, built, r⟩ := packDirectory_ok hproject hrun
      exact r.delivered.confined
    | archive root => exact (packArchive_ok hrun).2.confined

/-- What is there stays where at most a directory was made. -/
theorem at?_of_made {before after : FileSystem} {made : Prop} {entry : Entry}
    (h : after.at? l = before.at? l ∨
      made ∧ before.at? l = none ∧ after.at? l = some .directory)
    (hat : before.at? l = some entry) : after.at? l = some entry := by
  rcases h with hsame | ⟨-, hnone, -⟩
  · rw [hsame, hat]
  · cases hnone.symm.trans hat

/-- A file is kept unless it is beside the output, or at or below an output that was to be replaced
when the new one was complete. Neither happens to an output that is found and must not be replaced.
-/
theorem pack_keeps_file (hproject : ∀ f ∈ project.files, f.path.isInner = true)
    (hrun : (form.pack overwrite project output).outcome s = (result, s')) {content : Content}
    (hat : s.files.at? l = some (.file content)) :
    s'.files.at? l = some (.file content) ∨
      (overwrite = true ∨ s.files.stat? output = none) ∧
        ((∃ unfinished, unfinishedPath? output = some unfinished ∧
            s.files.place unfinished <+: l) ∨
          s.files.place output <+: l ∧
            ∀ e, result = .error e → e.isLate = true) := by
  by_cases hguard : overwrite = true ∨ s.files.stat? output = none
  · by_cases hbeside : ∃ unfinished, unfinishedPath? output = some unfinished ∧
        s.files.place unfinished <+: l
    · exact .inr ⟨hguard, .inl hbeside⟩
    · have hnot : ∀ unfinished, unfinishedPath? output = some unfinished →
          ¬ s.files.place unfinished <+: l := fun u hu hl => hbeside ⟨u, hu, hl⟩
      by_cases hunder : s.files.place output <+: l
      · by_cases hlate : ∀ e, result = .error e → e.isLate = true
        · exact .inr ⟨hguard, .inr ⟨hunder, hlate⟩⟩
        · obtain ⟨e, he⟩ := not_forall.mp hlate
          obtain ⟨rfl, hearly⟩ := Classical.not_imp.mp he
          rcases pack_failure hproject hrun with ⟨-, hfails⟩ | ⟨hlate, -⟩
          · exact .inl (at?_of_made (hfails.outside hnot) hat)
          · exact absurd hlate hearly
      · exact .inl (at?_of_made (pack_confined hproject hrun l hunder hnot) hat)
  · rw [not_or, Bool.not_eq_true] at hguard
    obtain ⟨rfl, hthere⟩ := hguard
    cases (pack_refused (Option.isSome_iff_ne_none.mpr hthere)).symm.trans hrun
    exact .inl hat

end Scaffold

import Scaffold.Proofs.Packaging.Building

/-!
# Plain output paths

A plain path is one that the file system takes as it is and that ends in a name without going up on
the way. What is built beside such an output can take its place as soon as nothing is there: the
paths of both lead to the same directory, and removing the output does not remove what leads there.
So the last stage of packaging fails on plain paths only if the old output cannot be removed, which
is a file in the place of a directory or a directory in the place of an archive.

## Main definitions

* `Path.IsPlain`: a path that ends in a name and does not go up.

## Main results

* `Beside.locate_output`: if the place beside an output is found, then so is that of the output.
* `Beside.rename_ok`: what was built takes the place of an output that is not there.
* `replaceOutput_plain`: when the last stage fails on a plain path.
-/

namespace Scaffold

/-- A path that the file system takes, that ends in a name and that does not go up. -/
structure Path.IsPlain (p : Path) : Prop where
  no_nul : p.text.toList.any (· == '\x00') = false
  short : p.text.utf8ByteSize ≤ FileSystem.maxPathBytes
  not_up : ".." ∉ FileSystem.segments p
  ends_in_name : ∃ name, p.fileName? = some name ∧
    (FileSystem.segments p).getLast? = some name
  no_slash : FileSystem.asksForDirectory p = false

/-- A plain path has a place beside it. -/
theorem Path.IsPlain.exists_beside {p : Path} (h : p.IsPlain) :
    ∃ unfinished parent name, unfinishedPath? p = some unfinished ∧
      Beside p unfinished parent name := by
  obtain ⟨name, hname, -⟩ := h.ends_in_name
  have hunfinished : unfinishedPath? p = some (p.withFileName ("." ++ name ++ ".partial")) := by
    rw [unfinishedPath?, hname]
    rfl
  obtain ⟨parent, name', hbeside⟩ := beside_unfinishedPath? hunfinished
  exact ⟨_, parent, name', hunfinished, hbeside⟩

/-- A plain path ends in a name and in nothing behind it. -/
theorem Path.IsPlain.exists_last {p : Path} (h : p.IsPlain) :
    ∃ name, (FileSystem.segments p).getLast? = some name ∧ FileSystem.isName name = true := by
  obtain ⟨name, hname, hlast⟩ := h.ends_in_name
  obtain ⟨-, -, -, -, -, -, hisName, -⟩ := segments_of_fileName? hname
  exact ⟨name, hlast, hisName⟩

namespace Beside

open FileSystem

variable {output unfinished parent : Path} {name : String} {fs : FileSystem} {l l' : Location}

theorem segments_plain (h : Beside output unfinished parent name) (hplain : output.IsPlain) :
    ∃ dots, (∀ d ∈ dots, d = ".") ∧ segments output = segments parent ++ dots ++ [name] := by
  obtain ⟨dots, dots', hdots, hsegments⟩ := h.segments_output
  obtain ⟨last, hlast, hname⟩ := hplain.exists_last
  rcases List.eq_nil_or_concat dots' with rfl | ⟨init, dot, rfl⟩
  · exact ⟨dots, fun d hd => hdots d (List.mem_append_left _ hd), hsegments⟩
  · have hdot : dot = "." := hdots dot (by simp)
    rw [hsegments, List.concat_eq_append, ← List.cons_append, ← List.append_assoc,
      List.getLast?_concat, hdot] at hlast
    rw [← Option.some.inj hlast] at hname
    cases hname

/-- If the place beside an output is found, then so is the place of the output. -/
theorem locate_output (h : Beside output unfinished parent name) (hplain : output.IsPlain)
    (hlocate : fs.locate unfinished = .ok l) : fs.locate output = .ok (fs.place output) := by
  obtain ⟨dots, hdots, hsegments⟩ := h.segments_plain hplain
  have hfold := locate_eq_ok hlocate
  rw [h.segments_unfinished, List.foldlM_append,
    start_congr rfl (h.isAbsolute_unfinished.trans (Path.isAbsolute_of_parent? h.parent?_eq))]
    at hfold
  cases hparent : (segments parent).foldlM fs.enter (fs.start output) with
  | error e =>
    rw [hparent] at hfold
    cases hfold
  | ok above =>
    rw [hparent] at hfold
    have hlast : [unfinishedName name].foldlM fs.enter above = .ok l := hfold
    have henter : fs.enter above (unfinishedName name) = .ok l := by
      simpa [List.foldlM_cons] using hlast
    obtain ⟨hat, hshort⟩ := enter_name_ok (isName_unfinishedName name) henter
    have hshort' : name.utf8ByteSize ≤ maxNameBytes := by
      simp only [unfinishedName, String.utf8ByteSize_append] at hshort
      omega
    have hall : (segments output).foldlM fs.enter (fs.start output) = .ok (above ++ [name]) := by
      rw [hsegments, List.foldlM_append, List.foldlM_append, hparent]
      change (dots.foldlM fs.enter above >>= fun l => [name].foldlM fs.enter l) = _
      rw [foldlM_enter_dots hdots hat]
      change [name].foldlM fs.enter above = _
      rw [List.foldlM_cons, enter_name h.isName hat hshort']
      rfl
    have htext : output.text ≠ "" := text_ne_of_segments_ne_nil (by simp [hsegments])
    have hnul : '\x00' ∉ output.text.toList := fun hmem =>
      List.any_eq_false.mp hplain.no_nul '\x00' hmem (beq_self_eq_true '\x00')
    have hfound := locate_eq_ok_iff.mpr ⟨⟨hnul, htext, hplain.short⟩, hall⟩
    rw [hfound, locate_eq_place hfound]

/-- What was built takes the place of an output that is not there. -/
theorem rename_ok (h : Beside output unfinished parent name) (hplain : output.IsPlain)
    {entry : Entry} (hlook : fs.look unfinished = .ok (fs.place unfinished, entry))
    (hnone : fs.at? (fs.place output) = none) :
    ∃ fs', fs.rename unfinished output = .ok fs' := by
  have hlocate := h.locate_output hplain (look_eq_ok hlook).1
  have hbeside : ¬ fs.place unfinished <+: fs.place output := h.not_unfinished_prefix fs
  have hne : fs.place unfinished ≠ fs.place output := fun heq => hbeside (heq ▸ List.prefix_rfl)
  have hbelow : (fs.place unfinished).isPrefixOf (fs.place output) = false := by
    rw [← Bool.not_eq_true, List.isPrefixOf_iff_prefix]
    exact hbeside
  obtain ⟨last, hlast, hname⟩ := hplain.exists_last
  have hnames : ¬ ((lastName? unfinished).isNone || (lastName? output).isNone) = true := by
    rw [lastName?, lastName?, h.getLast?_segments, hlast, Option.filter_some, Option.filter_some,
      if_pos (isName_unfinishedName name), if_pos hname]
    simp
  rw [rename, hlook, hlocate]
  dsimp only
  rw [if_neg hnames, if_neg hne, hbelow, hnone]
  cases entry with
  | directory => exact ⟨_, rfl⟩
  | file content =>
    dsimp only
    rw [hplain.no_slash]
    exact ⟨_, rfl⟩

/-- The place beside a plain output is still found when the output was removed. -/
theorem look_erase_output (h : Beside output unfinished parent name) (hplain : output.IsPlain)
    {entry : Entry} (hlook : fs.look unfinished = .ok (fs.place unfinished, entry)) :
    (fs.erase (fs.place output)).look unfinished = .ok (fs.place unfinished, entry) := by
  have hlocate := (look_eq_ok hlook).1
  have hdir : (fs.erase (fs.place output)).workingDirectory = fs.workingDirectory := rfl
  have hlocate' : (fs.erase (fs.place output)).locate unfinished = .ok (fs.place unfinished) :=
    locate_of_atMostMade hdir hlocate fun front segment back hfront =>
      .inl (fs.at?_erase_of_not_prefix
        (h.not_output_prefix_onWay hplain.not_up (h.onWay_of_front fs hfront)))
  rw [look, hlocate] at hlook
  rw [look, hlocate', ← hlook]
  dsimp only
  rw [fs.at?_erase_of_not_prefix (h.not_output_prefix fs)]

/-- What is not found at a plain output is not there, if the place beside it is found. -/
theorem at?_output_of_not_found (h : Beside output unfinished parent name)
    (hplain : output.IsPlain) (hlocate : fs.locate unfinished = .ok l)
    (hthere : ¬ (fs.stat? output).isSome = true) : fs.at? (fs.place output) = none := by
  cases hat : fs.at? (fs.place output) with
  | none => rfl
  | some entry =>
    have hlook := look_of_locate (h.locate_output hplain hlocate) hat hplain.no_slash
    rw [stat?_eq_some_iff.mpr ⟨_, hlook⟩] at hthere
    exact absurd rfl hthere

/-- Moving what was built does not fail if nothing is at a plain output. -/
theorem run_moving_ne_error (h : Beside output unfinished parent name) (hplain : output.IsPlain)
    {s s' : Session} {built : Entry}
    (hlook : s.files.look unfinished = .ok (s.files.place unfinished, built))
    (hnone : s.files.at? (s.files.place output) = none) (e : PackagingError) :
    (attempt (.moving unfinished output) (Storage.rename unfinished output) :
      Packing Unit).run.run s ≠ (.error e, s') := by
  intro hrun
  obtain ⟨files, hrename⟩ := h.rename_ok hplain hlook hnone
  have hrun' : (Storage.rename unfinished output : StateM Session _).run s =
      (.ok (), { s with files := files }) := Session.run_change_ok hrename
  obtain ⟨cause, -, hcause⟩ := run_attempt_error hrun
  cases hrun'.symm.trans hcause

end Beside

/-- What the last stage does when it fails on a plain path: the old output cannot be removed. -/
theorem replaceOutput_plain {output unfinished parent : Path} {name : String}
    (h : Beside output unfinished parent name) (hplain : output.IsPlain)
    {explain : DiskError → PackagingError}
    {remove : Path → StateM Session (Except DiskError Unit)} {s s' : Session} {e : PackagingError}
    {built : Entry}
    (hlook : s.files.look unfinished = .ok (s.files.place unfinished, built))
    (hrun : (replaceOutput explain remove unfinished output).run.run s = (.error e, s')) :
    ∃ entry, s.files.look output = .ok (s.files.place output, entry) ∧
      (remove output).run s ≠
        (.ok (), { s with files := s.files.erase (s.files.place output) }) := by
  rw [replaceOutput, Session.runExcept_bind, run_isThere] at hrun
  dsimp only at hrun
  split_ifs at hrun with hthere
  · obtain ⟨entry, hstat⟩ := Option.isSome_iff_exists.mp hthere
    obtain ⟨l, hfound⟩ := FileSystem.stat?_eq_some_iff.mp hstat
    obtain rfl := FileSystem.locate_eq_place (FileSystem.look_eq_ok hfound).1
    refine ⟨entry, hfound, fun hremoved => ?_⟩
    rcases Session.bind_error hrun with hrefused | ⟨⟨⟩, s₁, hremoved', hmoved⟩
    · obtain ⟨cause, -, hrefused⟩ := run_attempt_error hrefused
      cases hremoved.symm.trans hrefused
    · -- the output is gone, so nothing keeps what was built from its place
      cases hremoved.symm.trans (run_attempt_ok hremoved')
      have hne : s.files.place output ≠ [] := by
        rw [h.place_output]
        simp
      have hnone := s.files.at?_erase_self hne
      have hlook' := h.look_erase_output hplain hlook
      exact h.run_moving_ne_error (s := { s with files := s.files.erase (s.files.place output) })
        hplain hlook' hnone e hmoved
  · have hnone := h.at?_output_of_not_found hplain (FileSystem.look_eq_ok hlook).1 hthere
    exact absurd hrun (h.run_moving_ne_error hplain hlook hnone e)

end Scaffold

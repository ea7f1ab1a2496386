import Scaffold.Proofs.Path.Names

/-!
# The place beside an output

An output and the place where it is built are two names in one directory. So neither is at or below
the other, and what is made for the sake of the one does not touch the other, unless the path to
that directory itself leads through one of them.

## Main results

* `Beside.place_output`, `Beside.place_unfinished`: where the two are.
* `Beside.not_prefix_of_output`: what is at or below the output is not at or below the other.
* `Beside.onWay_join`: the files of a project are reached through the place beside the output.
-/

namespace Scaffold

namespace Beside

open FileSystem

variable {output unfinished parent : Path} {name : String} {fs : FileSystem} {l : Location}

theorem place_output (h : Beside output unfinished parent name) (fs : FileSystem) :
    fs.place output = fs.place parent ++ [name] := by
  obtain ⟨dots, dots', hdots, hsegments⟩ := h.segments_output
  have hstart : fs.start output = fs.start parent :=
    start_congr rfl (Path.isAbsolute_of_parent? h.parent?_eq).symm
  rw [place, hsegments, hstart, List.foldl_append, List.foldl_append, List.foldl_cons,
    foldl_step_dots (fun d hd => hdots d (List.mem_append_left _ hd)), step_name _ h.isName,
    foldl_step_dots (fun d hd => hdots d (List.mem_append_right _ hd)), place]

theorem place_unfinished (h : Beside output unfinished parent name) (fs : FileSystem) :
    fs.place unfinished = fs.place parent ++ [unfinishedName name] := by
  rw [place, h.segments_unfinished, start_congr rfl h.isAbsolute_unfinished, List.foldl_append,
    List.foldl_cons, step_name _ (isName_unfinishedName name), List.foldl_nil, place]

theorem not_output_prefix (h : Beside output unfinished parent name) (fs : FileSystem) :
    ¬ fs.place output <+: fs.place unfinished := by
  rw [h.place_output, h.place_unfinished, List.prefix_append_right_inj]
  simpa using (unfinishedName_ne_self name).symm

theorem not_unfinished_prefix (h : Beside output unfinished parent name) (fs : FileSystem) :
    ¬ fs.place unfinished <+: fs.place output := by
  rw [h.place_output, h.place_unfinished, List.prefix_append_right_inj]
  simpa using unfinishedName_ne_self name

/-- Two locations that are both at or below a third are not beside each other. -/
theorem not_prefix_of_output (h : Beside output unfinished parent name)
    (hl : fs.place output <+: l) : ¬ fs.place unfinished <+: l := by
  intro hl'
  rcases List.prefix_or_prefix_of_prefix hl hl' with hbelow | hbelow
  · exact h.not_output_prefix fs hbelow
  · exact h.not_unfinished_prefix fs hbelow

theorem getLast?_segments (h : Beside output unfinished parent name) :
    (segments unfinished).getLast? = some (unfinishedName name) := by
  simp [h.segments_unfinished]

theorem text_ne (h : Beside output unfinished parent name) : unfinished.text ≠ "" :=
  text_ne_of_segments_ne_nil (by simp [h.segments_unfinished])

theorem onWay_unfinished (h : Beside output unfinished parent name)
    (hl : fs.OnWay unfinished l) : fs.OnWay parent l ∨ l = fs.place unfinished := by
  obtain ⟨way, hway, rfl⟩ := hl
  rw [start_congr rfl h.isAbsolute_unfinished]
  rw [h.segments_unfinished, List.prefix_concat_iff] at hway
  rcases hway with rfl | hway
  · right
    rw [place, h.segments_unfinished, start_congr rfl h.isAbsolute_unfinished]
  · exact .inl ⟨way, hway, rfl⟩

theorem onWay_parent?_unfinished (h : Beside output unfinished parent name) {q : Path}
    (hq : unfinished.parent? = some q) (hl : fs.OnWay q l) : fs.OnWay parent l := by
  obtain ⟨way, hway, rfl⟩ := hl
  have hname := isName_unfinishedName name
  simp only [FileSystem.isName, Bool.and_eq_true, bne_iff_ne] at hname
  refine ⟨way, hway.trans (segments_of_parent?_of_name hq h.segments_unfinished hname.1), ?_⟩
  rw [start_congr rfl ((Path.isAbsolute_of_parent? hq).trans h.isAbsolute_unfinished)]

/-- Everything in front of the last segment leads to the parent. -/
theorem onWay_of_front (h : Beside output unfinished parent name) (fs : FileSystem)
    {front back : List String} {segment : String}
    (hfront : segments unfinished = front ++ segment :: back) :
    fs.OnWay parent (front.foldl step (fs.start unfinished)) := by
  have hbelow : front <+: segments parent ++ [unfinishedName name] :=
    ⟨segment :: back, by rw [← hfront, h.segments_unfinished]⟩
  refine ⟨front, ?_, by rw [start_congr rfl h.isAbsolute_unfinished]⟩
  refine (List.prefix_concat_iff.mp hbelow).resolve_left fun hwhole => ?_
  rw [h.segments_unfinished, ← hwhole] at hfront
  simpa using congrArg List.length hfront

/-- A way to the parent that is at or below the place beside the output goes through it. -/
theorem onWay_parent_unfinished (h : Beside output unfinished parent name)
    (hl : fs.OnWay parent l) (hbelow : fs.place unfinished <+: l) :
    fs.OnWay parent (fs.place unfinished) := by
  refine onWay_of_leave hl hbelow fun habove => ?_
  rw [h.place_unfinished] at habove
  have hlength := habove.length_le
  rw [List.length_append, List.length_singleton] at hlength
  omega

theorem not_up_unfinished (h : Beside output unfinished parent name)
    (hup : ".." ∉ segments output) : ".." ∉ segments unfinished := by
  have hname := isName_unfinishedName name
  simp only [FileSystem.isName, Bool.and_eq_true, bne_iff_ne] at hname
  rw [h.segments_unfinished, List.mem_append, List.mem_singleton, not_or]
  exact ⟨fun hmem => hup ((segments_of_parent? h.parent?_eq).subset hmem), hname.2.symm⟩

/-- On a path that does not go up one comes closer to the directory of the output with every
segment. -/
theorem onWay_prefix (h : Beside output unfinished parent name) (hup : ".." ∉ segments output)
    (hl : fs.OnWay parent l) : l <+: fs.place parent := by
  obtain ⟨way, ⟨rest, hrest⟩, rfl⟩ := hl
  rw [place, ← hrest, List.foldl_append]
  refine prefix_foldl_step (fun hmem => hup ?_) _
  exact (segments_of_parent? h.parent?_eq).subset (hrest ▸ List.mem_append_right way hmem)

theorem not_output_prefix_onWay (h : Beside output unfinished parent name)
    (hup : ".." ∉ segments output) (hl : fs.OnWay parent l) : ¬ fs.place output <+: l := by
  intro hbelow
  have hlength := (hbelow.trans (h.onWay_prefix hup hl)).length_le
  rw [h.place_output, List.length_append, List.length_singleton] at hlength
  omega

theorem not_unfinished_prefix_onWay (h : Beside output unfinished parent name)
    (hup : ".." ∉ segments output) (hl : fs.OnWay parent l) : ¬ fs.place unfinished <+: l := by
  intro hbelow
  have hlength := (hbelow.trans (h.onWay_prefix hup hl)).length_le
  rw [h.place_unfinished, List.length_append, List.length_singleton] at hlength
  omega

/-- A file of a project is reached through the place beside the output. -/
theorem onWay_join (h : Beside output unfinished parent name) {q : Path} (hq : q.isInner = true)
    (hl : fs.OnWay (unfinished.join q) l) : fs.place unfinished <+: l ∨ fs.OnWay parent l := by
  rcases FileSystem.onWay_join hq hl with hway | ⟨hbelow, -⟩
  · rcases h.onWay_unfinished hway with hway | heq
    · exact .inr hway
    · exact .inl (heq ▸ List.prefix_rfl)
  · exact .inl hbelow

end Beside

end Scaffold

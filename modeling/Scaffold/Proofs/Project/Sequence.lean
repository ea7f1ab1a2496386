import Scaffold.Failure
import Scaffold.Proofs.Project.Places

/-!
# The first step that fails

A generation takes its steps in an order that is known beforehand, and ends with the first one that
fails. What can go wrong with a step depends on the steps in front of it only: the renderer, which
has seen their contexts, may refuse its context, and its path may lead outside or be taken by one of
them. So the outcome of a generation can be said without running it: the first failure of the
sequence, or, if no step fails, one file for every step.

The argument is an induction over the steps. It is carried by the paths of the project, which are
those of the steps already taken.

## Main definitions

* `answer`: the answer of a renderer to a step that comes after others.
* `FailsAfter`: what is wrong with a step that comes after others.
* `Passes`, `FirstFailure`: no step fails, and the first one that does.
* `Renders`, `Drafted`: the renderer takes every step, and the files that it makes of them.

## Main results

* `runSteps_eq_error_iff`, `runSteps_eq_ok_iff`: the outcome of some steps.
* `passes_iff`: no step fails if all of them are rendered and their files are inside and apart.
* `generate_outcome`: the outcome of a generation.
-/

namespace Scaffold

/-! ### Steps after other steps -/

/-- The answer of a renderer to a step that comes after others. -/
def answer (render : Renderer) (before : List Step) (step : Step) : Except String String :=
  render (before.map Step.context).reverse step.context

/-- What is wrong with a step that comes after others: the renderer refuses it, or its path leads
outside or is taken. -/
inductive FailsAfter (render : Renderer) (before : List Step) (step : Step) :
    GenerationError → Prop
  | rendering {explanation : String} (hanswer : answer render before step = .error explanation) :
      FailsAfter render before step (.rendering step.context.template step.path explanation)
  | outside {text : String} (hanswer : answer render before step = .ok text)
      (houtside : step.path.isInner = false) :
      FailsAfter render before step (.placing (.outside step.path))
  | taken {text : String} (hanswer : answer render before step = .ok text)
      (hinner : step.path.isInner = true)
      (htaken : ∃ other ∈ before, other.path.same step.path = true) :
      FailsAfter render before step (.placing (.duplicate step.path))

/-- No step fails, where the first one comes after `before`. -/
def Passes (render : Renderer) (before steps : List Step) : Prop :=
  ∀ front step back, steps = front ++ step :: back →
    ∀ e, ¬ FailsAfter render (before ++ front) step e

/-- The first step that fails, where the first step of all comes after `before`, fails so. -/
def FirstFailure (render : Renderer) (before steps : List Step) (e : GenerationError) : Prop :=
  ∃ front step back, steps = front ++ step :: back ∧ Passes render before front ∧
    FailsAfter render (before ++ front) step e

/-- The renderer refuses no step, where the first one comes after `before`. -/
def Renders (render : Renderer) (before steps : List Step) : Prop :=
  ∀ front step back, steps = front ++ step :: back →
    ∃ text, answer render (before ++ front) step = .ok text

/-- The files that a renderer makes of steps, where the first one comes after `before`: one for each
step, at its path and with the text that the renderer returns. -/
inductive Drafted (render : Renderer) : List Step → List Step → List ProjectFile → Prop
  | nil {before : List Step} : Drafted render before [] []
  | cons {before rest : List Step} {step : Step} {text : String} {files : List ProjectFile}
      (hanswer : answer render before step = .ok text)
      (hrest : Drafted render (before ++ [step]) rest files) :
      Drafted render before (step :: rest) (⟨step.path, text⟩ :: files)

section

variable {render : Renderer} {before steps rest : List Step} {step : Step} {e e' : GenerationError}

theorem FailsAfter.unique (h : FailsAfter render before step e)
    (h' : FailsAfter render before step e') : e = e' := by
  cases h <;> cases h' <;> simp_all

/-- A step does not fail exactly if it is rendered and its file is inside and apart from the
others. -/
theorem not_failsAfter_iff :
    (∀ e, ¬ FailsAfter render before step e) ↔
      (∃ text, answer render before step = .ok text) ∧ step.path.isInner = true ∧
        ∀ other ∈ before, other.Apart step := by
  constructor
  · intro hnot
    cases hanswer : answer render before step with
    | error explanation => exact absurd (.rendering hanswer) (hnot _)
    | ok text =>
      have hinner : step.path.isInner = true := by
        by_contra houtside
        exact hnot _ (.outside hanswer (by simpa using houtside))
      refine ⟨⟨text, rfl⟩, hinner, fun other hother => ?_⟩
      by_contra hsame
      exact hnot _ (.taken hanswer hinner ⟨other, hother, by simpa [Step.Apart] using hsame⟩)
  · rintro ⟨⟨text, hanswer⟩, hinner, hapart⟩ e hfails
    cases hfails with
    | rendering hrefused => cases hanswer.symm.trans hrefused
    | outside _ houtside => cases hinner.symm.trans houtside
    | taken _ _ htaken =>
      obtain ⟨other, hother, hsame⟩ := htaken
      cases (hapart other hother).symm.trans hsame

/-! ### One step more -/

theorem forall_split_cons {α : Type} {P : List α → α → Prop} {a : α} {l : List α} :
    (∀ front b back, a :: l = front ++ b :: back → P front b) ↔
      P [] a ∧ ∀ front b back, l = front ++ b :: back → P (a :: front) b := by
  constructor
  · exact fun h => ⟨h [] a l rfl, fun front b back heq => h (a :: front) b back (by simp [heq])⟩
  · rintro ⟨hfirst, hrest⟩ front b back heq
    rcases List.cons_eq_append_iff.mp heq with ⟨rfl, hcons⟩ | ⟨front', rfl, hl⟩
    · cases hcons
      exact hfirst
    · exact hrest front' b back hl

theorem passes_nil : Passes render before [] := by
  rintro front step back heq
  simp at heq

theorem passes_cons_iff :
    Passes render before (step :: rest) ↔
      (∀ e, ¬ FailsAfter render before step e) ∧ Passes render (before ++ [step]) rest := by
  simp [Passes, forall_split_cons
    (P := fun front step => ∀ e, ¬ FailsAfter render (before ++ front) step e)]

theorem renders_nil : Renders render before [] := by
  rintro front step back heq
  simp at heq

theorem renders_cons_iff :
    Renders render before (step :: rest) ↔
      (∃ text, answer render before step = .ok text) ∧ Renders render (before ++ [step]) rest := by
  simp [Renders, forall_split_cons
    (P := fun front step => ∃ text, answer render (before ++ front) step = .ok text)]

theorem firstFailure_cons_iff :
    FirstFailure render before (step :: rest) e ↔
      FailsAfter render before step e ∨
        (∀ e', ¬ FailsAfter render before step e') ∧
          FirstFailure render (before ++ [step]) rest e := by
  constructor
  · rintro ⟨front, failing, back, heq, hpasses, hfails⟩
    rcases List.cons_eq_append_iff.mp heq with ⟨rfl, hcons⟩ | ⟨front', rfl, hrest⟩
    · cases hcons
      left
      simpa using hfails
    · right
      obtain ⟨hstep, hfront⟩ := passes_cons_iff.mp hpasses
      exact ⟨hstep, front', failing, back, hrest, hfront, by simpa using hfails⟩
  · rintro (hfails | ⟨hstep, front, failing, back, hrest, hpasses, hfails⟩)
    · exact ⟨[], step, rest, rfl, passes_nil, by simpa using hfails⟩
    · exact ⟨step :: front, failing, back, by simp [hrest], passes_cons_iff.mpr ⟨hstep, hpasses⟩,
        by simpa using hfails⟩

/-- No step fails exactly if all of them are rendered and their files are inside and apart. -/
theorem passes_iff :
    Passes render before steps ↔
      Renders render before steps ∧ (∀ s ∈ steps, s.path.isInner = true) ∧
        (∀ other ∈ before, ∀ s ∈ steps, other.Apart s) ∧ steps.Pairwise Step.Apart := by
  induction steps generalizing before with
  | nil =>
    simp [passes_nil, renders_nil]
  | cons step rest ih =>
    rw [passes_cons_iff, renders_cons_iff, not_failsAfter_iff, ih, List.pairwise_cons]
    simp only [List.mem_append, List.mem_cons, or_imp, forall_and, forall_eq]
    tauto

theorem exists_drafted_iff : (∃ files, Drafted render before steps files) ↔
    Renders render before steps := by
  induction steps generalizing before with
  | nil =>
    exact ⟨fun _ => renders_nil, fun _ => ⟨[], .nil⟩⟩
  | cons step rest ih =>
    rw [renders_cons_iff, ← ih]
    constructor
    · rintro ⟨files, hdrafted⟩
      cases hdrafted with
      | cons hanswer hrest => exact ⟨⟨_, hanswer⟩, _, hrest⟩
    · rintro ⟨⟨text, hanswer⟩, files, hrest⟩
      exact ⟨_, .cons hanswer hrest⟩

theorem Drafted.length_eq {files : List ProjectFile} (h : Drafted render before steps files) :
    files.length = steps.length := by
  induction h with
  | nil => rfl
  | cons _ _ ih => rw [List.length_cons, List.length_cons, ih]

/-! ### Taking the steps -/

variable {project project' : Project}

theorem isSome_find?_iff (hpaths : project.files.map ProjectFile.path = before.map Step.path)
    (path : Path) :
    (project.find? path).isSome = true ↔ ∃ other ∈ before, other.path.same path = true := by
  have hfiles : (∃ q ∈ project.files.map ProjectFile.path, q.same path = true) ↔
      ∃ q ∈ before.map Step.path, q.same path = true := by rw [hpaths]
  simpa [Project.find?, List.find?_isSome] using hfiles

/-- A step fails as it has to, or adds the text that is returned for it. -/
theorem takeStep_cases (hpaths : project.files.map ProjectFile.path = before.map Step.path)
    (render : Renderer) (step : Step) :
    (∃ e, takeStep render (before.map Step.context).reverse project step = .error e ∧
        FailsAfter render before step e) ∨
      ∃ text, answer render before step = .ok text ∧ (∀ e, ¬ FailsAfter render before step e) ∧
        takeStep render (before.map Step.context).reverse project step =
          .ok ⟨project.files ++ [⟨step.path, text⟩]⟩ := by
  cases hanswer : answer render before step with
  | error explanation =>
    refine .inl ⟨.rendering step.context.template step.path explanation, ?_, .rendering hanswer⟩
    rw [answer] at hanswer
    rw [takeStep, hanswer]
  | ok text =>
    have htake : takeStep render (before.map Step.context).reverse project step =
        (project.add step.path text).mapError .placing := by
      rw [answer] at hanswer
      rw [takeStep, hanswer]
    rw [htake, Project.add]
    split_ifs with houtside htaken
    · exact .inl ⟨_, rfl, .outside hanswer (by simpa using houtside)⟩
    · rw [isSome_find?_iff hpaths] at htaken
      exact .inl ⟨_, rfl, .taken hanswer (by simpa using houtside) htaken⟩
    · rw [isSome_find?_iff hpaths] at htaken
      refine .inr ⟨text, rfl, not_failsAfter_iff.mpr ⟨⟨text, hanswer⟩, by simpa using houtside, ?_⟩,
        rfl⟩
      intro other hother
      rw [Step.Apart, ← Bool.not_eq_true]
      exact fun hsame => htaken ⟨other, hother, hsame⟩

/-- The steps fail exactly as the first of them that fails does. -/
theorem runSteps_eq_error_iff
    (hpaths : project.files.map ProjectFile.path = before.map Step.path) :
    runSteps render (before.map Step.context).reverse project steps = .error e ↔
      FirstFailure render before steps e := by
  induction steps generalizing before project with
  | nil => simp [runSteps, FirstFailure]
  | cons step rest ih =>
    rw [firstFailure_cons_iff, runSteps]
    rcases takeStep_cases hpaths render step with ⟨e', htake, hfails⟩ |
      ⟨text, hanswer, hpasses, htake⟩
    · rw [htake]
      constructor
      · intro heq
        cases heq
        exact .inl hfails
      · rintro (hfails' | ⟨hpasses, -⟩)
        · rw [hfails.unique hfails']
        · exact absurd hfails (hpasses e')
    · have hnext := @ih (before ++ [step]) ⟨project.files ++ [⟨step.path, text⟩]⟩
        (by simp [hpaths])
      rw [List.map_append, List.reverse_append] at hnext
      rw [htake]
      refine Iff.trans hnext ⟨fun hrest => .inr ⟨hpasses, hrest⟩, ?_⟩
      rintro (hfails | ⟨-, hrest⟩)
      · exact absurd hfails (hpasses e)
      · exact hrest

/-- If no step fails, then the steps add the files that the renderer makes of them. -/
theorem runSteps_eq_ok_iff
    (hpaths : project.files.map ProjectFile.path = before.map Step.path) :
    runSteps render (before.map Step.context).reverse project steps = .ok project' ↔
      Passes render before steps ∧ ∃ files, Drafted render before steps files ∧
        project' = ⟨project.files ++ files⟩ := by
  induction steps generalizing before project with
  | nil =>
    rw [runSteps, Except.ok.injEq]
    constructor
    · rintro rfl
      exact ⟨passes_nil, [], .nil, by simp⟩
    · rintro ⟨-, files, hdrafted, rfl⟩
      cases hdrafted
      simp
  | cons step rest ih =>
    rw [passes_cons_iff, runSteps]
    rcases takeStep_cases hpaths render step with ⟨e', htake, hfails⟩ |
      ⟨text, hanswer, hpasses, htake⟩
    · rw [htake]
      constructor
      · intro heq
        cases heq
      · rintro ⟨⟨hpasses, -⟩, -⟩
        exact absurd hfails (hpasses e')
    · have hnext := @ih (before ++ [step]) ⟨project.files ++ [⟨step.path, text⟩]⟩
        (by simp [hpaths])
      rw [List.map_append, List.reverse_append] at hnext
      rw [htake]
      refine Iff.trans hnext ?_
      constructor
      · rintro ⟨hrest, files, hdrafted, rfl⟩
        exact ⟨⟨hpasses, hrest⟩, _, .cons hanswer hdrafted, by simp⟩
      · rintro ⟨⟨-, hrest⟩, files, hdrafted, rfl⟩
        cases hdrafted with
        | cons hanswer' hdrafted =>
          cases hanswer.symm.trans hanswer'
          exact ⟨hrest, _, hdrafted, by simp⟩

end

/-! ### The sequence of a diagram -/

section

variable {d : Diagram} {p : Parameters} {render : Renderer} {e : GenerationError}

theorem map_path_empty :
    Project.empty.files.map ProjectFile.path = ([] : List Step).map Step.path :=
  rfl

theorem generate_eq_error_iff :
    generate d p render = .error e ↔ FirstFailure render [] (generationSteps d p) e :=
  runSteps_eq_error_iff map_path_empty

theorem generate_eq_ok_iff {project : Project} :
    generate d p render = .ok project ↔
      Passes render [] (generationSteps d p) ∧
        Drafted render [] (generationSteps d p) project.files := by
  refine Iff.trans (runSteps_eq_ok_iff map_path_empty) (and_congr_right fun _ => ?_)
  constructor
  · rintro ⟨files, hdrafted, rfl⟩
    exact hdrafted
  · exact fun hdrafted => ⟨project.files, hdrafted, rfl⟩

/-- No step of a diagram fails exactly if all are rendered and no entity name is repeated. -/
theorem passes_generationSteps_iff
    (hroot : (Layout.ofPackage p.basePackage).javaRoot.isInner = true) :
    Passes render [] (generationSteps d p) ↔
      Renders render [] (generationSteps d p) ∧
        (d.normalize.classes.map ClassBox.entity).Nodup := by
  have hinner : ∀ s ∈ generationSteps d p, s.path.isInner = true :=
    isInner_of_mem_generationSteps hroot
  rw [passes_iff, pairwise_apart_generationSteps_iff hroot]
  constructor
  · exact fun ⟨hrenders, _, _, hentities⟩ => ⟨hrenders, hentities⟩
  · exact fun ⟨hrenders, hentities⟩ => ⟨hrenders, hinner, by simp, hentities⟩

theorem length_generationSteps (d : Diagram) (p : Parameters) :
    (generationSteps d p).length = 3 + 4 * d.classes.length := by
  have hclasses : d.normalize.classes.length = d.classes.length := List.length_map _
  have hfiles : (d.normalize.classes.flatMap
      ((Index.ofDiagram d.normalize).classSteps p.basePackage)).length = d.classes.length * 4 := by
    simp [Index.classSteps, List.length_flatMap, hclasses]
  have hproject : (projectSteps p).length = 3 := rfl
  rw [generationSteps_eq, List.length_append, hfiles, hproject, Nat.mul_comm]

/-- An element of a list of lists put together lies in one of them. -/
theorem exists_of_flatMap_eq {α β : Type} {f : α → List β} {l : List α} {before after : List β}
    {b : β} (h : l.flatMap f = before ++ b :: after) :
    ∃ front a back inner rest, l = front ++ a :: back ∧ f a = inner ++ b :: rest ∧
      before = front.flatMap f ++ inner := by
  induction l generalizing before with
  | nil => simp at h
  | cons a l ih =>
    rw [List.flatMap_cons, List.append_eq_append_iff] at h
    rcases h with ⟨between, rfl, hrest⟩ | ⟨rest, hfirst, hrest⟩
    · obtain ⟨front, a', back, inner, rest, rfl, ha', rfl⟩ := ih hrest
      exact ⟨a :: front, a', back, inner, rest, rfl, ha', by simp⟩
    · cases rest with
      | nil =>
        obtain ⟨front, a', back, inner, rest, hl, ha', hempty⟩ := @ih [] hrest.symm
        refine ⟨a :: front, a', back, inner, rest, by rw [hl, List.cons_append], ha', ?_⟩
        rw [List.flatMap_cons, List.append_assoc, ← hempty, hfirst, List.append_nil,
          List.append_nil]
      | cons b' rest =>
        cases hrest
        exact ⟨[], a, l, before, rest, rfl, hfirst, rfl⟩

/-- A path that is taken when a step comes to it is that of the entity of the first class that
repeats an entity name. -/
theorem exists_repeated_of_taken {before after : List Step} {step other : Step}
    (hroot : (Layout.ofPackage p.basePackage).javaRoot.isInner = true)
    (hsteps : generationSteps d p = before ++ step :: after) (hpasses : Passes render [] before)
    (hother : other ∈ before) (hsame : other.path.same step.path = true) :
    ∃ front c back, d.normalize.classes = front ++ c :: back ∧
      (front.map ClassBox.entity).Nodup ∧ c.entity ∈ front.map ClassBox.entity ∧
      step.path = (Layout.ofPackage p.basePackage).entity c.entity := by
  have hnot : ¬ other.Apart step := by
    rw [Step.Apart, hsame]
    exact Bool.noConfusion
  have hapart : before.Pairwise Step.Apart := (passes_iff.mp hpasses).2.2.2
  -- the three files of the project as a whole are apart, so the step belongs to a class
  obtain ⟨between, rfl, hclasses⟩ : ∃ between, before = projectSteps p ++ between ∧
      d.normalize.classes.flatMap ((Index.ofDiagram d.normalize).classSteps p.basePackage) =
        between ++ step :: after := by
    rcases List.append_eq_append_iff.mp hsteps with ⟨between, hbefore, hrest⟩ |
      ⟨rest, hproject, hrest⟩
    · exact ⟨between, hbefore, hrest⟩
    · cases rest with
      | nil => exact ⟨[], by simpa using hproject.symm, hrest.symm⟩
      | cons step' rest =>
        cases hrest
        have hproject' := pairwise_apart_projectSteps hroot
        rw [hproject, List.pairwise_append] at hproject'
        exact absurd (hproject'.2.2 _ hother _ List.mem_cons_self) hnot
  obtain ⟨front, c, back, inner, rest, hsplit, hc, rfl⟩ := exists_of_flatMap_eq hclasses
  have hstep : step ∈ (Index.ofDiagram d.normalize).classSteps p.basePackage c := by simp [hc]
  rw [List.pairwise_append, List.pairwise_append, pairwise_apart_flatMap_iff] at hapart
  obtain ⟨-, ⟨hnodup, -, hcross⟩, -⟩ := hapart
  -- an earlier class has the path that is taken, since those of one class are apart
  obtain ⟨earlier, hearlier, hentity⟩ : ∃ earlier ∈ front, earlier.entity = c.entity := by
    rcases List.mem_append.mp hother with hproject | hother
    · exact absurd (apart_projectSteps_classSteps hroot hproject hstep) hnot
    rcases List.mem_append.mp hother with hfront | hinner
    · obtain ⟨earlier, hearlier, hmem⟩ := List.mem_flatMap.mp hfront
      exact ⟨earlier, hearlier, ((same_iff_of_mem_classSteps hmem hstep).mp hsame).1⟩
    · have hclass := pairwise_apart_classSteps (Index.ofDiagram d.normalize) p.basePackage c
      rw [hc, List.pairwise_append] at hclass
      exact absurd (hclass.2.2 _ hinner _ List.mem_cons_self) hnot
  refine ⟨front, c, back, hsplit, hnodup, hentity ▸ List.mem_map_of_mem hearlier, ?_⟩
  cases inner with
  | nil =>
    simp only [Index.classSteps, List.nil_append, List.cons.injEq] at hc
    rw [← hc.1]
  | cons first inner =>
    -- then the first step of the class would have failed before
    simp only [Index.classSteps, List.cons_append, List.cons.injEq] at hc
    obtain ⟨rfl, -⟩ := hc
    have hfirst := hcross _ (List.mem_flatMap.mpr ⟨earlier, hearlier, List.mem_cons_self⟩) _
      List.mem_cons_self
    rw [Step.Apart, ← Bool.not_eq_true, same_iff_of_mem_classSteps List.mem_cons_self
      List.mem_cons_self] at hfirst
    exact absurd ⟨hentity, rfl⟩ hfirst

/-- The first failure of a diagram is that of a rendering, or it is the entity of the first class
that repeats an entity name. -/
theorem FirstFailure.cases_of_isInner
    (hroot : (Layout.ofPackage p.basePackage).javaRoot.isInner = true)
    (h : FirstFailure render [] (generationSteps d p) e) :
    (∃ template path explanation, e = .rendering template path explanation) ∨
      ∃ front c back, d.normalize.classes = front ++ c :: back ∧
        (front.map ClassBox.entity).Nodup ∧ c.entity ∈ front.map ClassBox.entity ∧
        e = .placing (.duplicate ((Layout.ofPackage p.basePackage).entity c.entity)) := by
  obtain ⟨before, step, after, hsteps, hpasses, hfails⟩ := h
  cases hfails with
  | rendering hanswer => exact .inl ⟨_, _, _, rfl⟩
  | outside hanswer houtside =>
    have hinner := isInner_of_mem_generationSteps (d := d) hroot step (by simp [hsteps])
    cases hinner.symm.trans houtside
  | taken hanswer hinner htaken =>
    obtain ⟨other, hother, hsame⟩ := htaken
    obtain ⟨front, c, back, hsplit, hnodup, hrepeated, hpath⟩ :=
      exists_repeated_of_taken hroot hsteps hpasses hother hsame
    exact .inr ⟨front, c, back, hsplit, hnodup, hrepeated, by rw [hpath]⟩

/-- The templates and the paths of the files of a diagram, in order. -/
theorem map_place_generationSteps (d : Diagram) {p : Parameters} {layout : Layout}
    (hlayout : layout = Layout.ofPackage p.basePackage) :
    (generationSteps d p).map (fun s => (s.context.template, s.path)) =
      [(.buildDescriptor, layout.buildDescriptor), (.bootstrap, layout.bootstrap p.mainClass),
        (.configuration, layout.configuration)] ++
      d.normalize.classes.flatMap fun c =>
        [(.entity, layout.entity c.entity), (.repository, layout.repository c.entity),
          (.service, layout.service c.entity), (.controller, layout.controller c.entity)] := by
  simp only [generationSteps_eq, List.map_append, List.map_flatMap, projectSteps, Index.classSteps,
    List.map_cons, List.map_nil, Context.template, hlayout]

end

/-- **The outcome of a generation.** The sequence of its steps is known beforehand: three files for
the project, and four for each class in the order of the diagram. It goes through exactly if the
renderer refuses no step and no two classes have the same entity name, and gives one file for each
step, with the text returned for it. Otherwise it fails as the first step that fails: the renderer
refuses it, or it is the entity of the first class that repeats an entity name. -/
theorem generate_outcome {d : Diagram} {p : Parameters}
    (hpackage : Naming.isPackage p.basePackage = true) (render : Renderer) :
    let steps := generationSteps d p
    let layout := Layout.ofPackage p.basePackage
    let classes := d.normalize.classes
    (steps.map fun s => (s.context.template, s.path)) =
        [(.buildDescriptor, layout.buildDescriptor), (.bootstrap, layout.bootstrap p.mainClass),
          (.configuration, layout.configuration)] ++
        (classes.flatMap fun c =>
          [(.entity, layout.entity c.entity), (.repository, layout.repository c.entity),
            (.service, layout.service c.entity), (.controller, layout.controller c.entity)]) ∧
      ((∃ project, generate d p render = .ok project) ↔
        Renders render [] steps ∧ (classes.map ClassBox.entity).Nodup) ∧
      (∀ project, generate d p render = .ok project →
        Drafted render [] steps project.files ∧ project.size = 3 + 4 * d.classes.length) ∧
      (∀ e, generate d p render = .error e ↔ FirstFailure render [] steps e) ∧
      ∀ e, generate d p render = .error e →
        (∃ template path explanation, e = .rendering template path explanation ∧
          e.message = "Failed to render " ++ template.text ++ " template for " ++ path.text) ∨
        ∃ front c back, classes = front ++ c :: back ∧ (front.map ClassBox.entity).Nodup ∧
          c.entity ∈ front.map ClassBox.entity ∧
          e = .placing (.duplicate (layout.entity c.entity)) ∧
          e.message = "Duplicate generated file: " ++ (layout.entity c.entity).text := by
  intro steps layout classes
  have hroot := isInner_javaRoot hpackage
  refine ⟨map_place_generationSteps d rfl, ?_, fun project hok => ?_,
    fun e => generate_eq_error_iff, fun e herror => ?_⟩
  · rw [← passes_generationSteps_iff hroot]
    constructor
    · rintro ⟨project, hok⟩
      exact (generate_eq_ok_iff.mp hok).1
    · intro hpasses
      obtain ⟨files, hdrafted⟩ := exists_drafted_iff.mpr (passes_iff.mp hpasses).1
      exact ⟨⟨files⟩, generate_eq_ok_iff.mpr ⟨hpasses, hdrafted⟩⟩
  · have hdrafted := (generate_eq_ok_iff.mp hok).2
    exact ⟨hdrafted, hdrafted.length_eq.trans (length_generationSteps d p)⟩
  · rcases (generate_eq_error_iff.mp herror).cases_of_isInner hroot with
      ⟨template, path, explanation, rfl⟩ | ⟨front, c, back, hsplit, hnodup, hrepeated, rfl⟩
    · exact .inl ⟨template, path, explanation, rfl, rfl⟩
    · exact .inr ⟨front, c, back, hsplit, hnodup, hrepeated, rfl, rfl⟩

/-- Two classes with the same entity name. -/
def booksDiagram : Diagram where
  classes := [.named "a" "Book", .named "" " book"]
  relationships := []

/-- A renderer that takes eight contexts and refuses every one after them. -/
def impatientRenderer : Renderer :=
  fun rendered c => if rendered.length < 8 then .ok c.template.text else .error "enough"

theorem generate_outcome_books :
    Naming.isPackage "p" = true ∧
      FirstFailure impatientRenderer [] (generationSteps booksDiagram (.standard "p" "b"))
        (.placing (.duplicate ⟨"src/main/java/p/model/Book.java"⟩)) := by
  have hpackage : Naming.isPackage "p" = true := by decide +kernel
  have hgenerate : generate booksDiagram (.standard "p" "b") impatientRenderer =
      .error (.placing (.duplicate ⟨"src/main/java/p/model/Book.java"⟩)) := by
    decide +kernel
  obtain ⟨-, -, -, hfirst, -⟩ := generate_outcome (d := booksDiagram) (p := .standard "p" "b")
    hpackage impatientRenderer
  exact ⟨hpackage, (hfirst _).mp hgenerate⟩

end Scaffold

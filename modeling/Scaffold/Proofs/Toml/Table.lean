import Scaffold.Proofs.Toml.Document

/-!
# Tables of sections

A section of a document changes one value: the table that its header opens. Two changes of the value
under a key are one change of it, and so are two changes at the end of a path. So the statements of
a section amount to one table that is put where its path leads, and a document to the tables of its
sections, put there one after the other.

## Main definitions

* `addTable`: the members with a table that a header opens and assignments fill.
* `Section.addTo`: the members with the table of a section.

## Main results

* `alter_bind`, `descend_bind`: two changes in one place are one.
* `foldlM_addStatement_statements`: the statements of a section add its table.
* `parse_writeSections_eq_addTo`: what a document is read as.
-/

namespace Scaffold.Toml

/-! ### Changes in one place -/

/-- Two changes of the value under a key are one. -/
theorem alter_bind (key : String) (f g : Option Value → Option Value) (members : Members) :
    (alter key f members).bind (alter key g) =
      alter key (fun old => (f old).bind fun new => g (some new)) members := by
  induction members with
  | nil =>
    rw [alter, alter]
    cases f none with
    | none => rfl
    | some new => simp [alter]
  | cons member rest ih =>
    obtain ⟨k, v⟩ := member
    rw [alter, alter]
    split_ifs with heq hlt
    · cases f (some v) with
      | none => rfl
      | some new => simp [alter, heq]
    · cases f none with
      | none => rfl
      | some new => simp [alter]
    · rw [← ih]
      cases alter key f rest with
      | none => rfl
      | some rest => simp [alter, heq, hlt]

theorem alterLast_cons {α : Type} (f : α → Option α) (x : α) {rest : List α} (h : rest ≠ []) :
    alterLast f (x :: rest) = (alterLast f rest).map fun rest => x :: rest := by
  obtain ⟨y, rest, rfl⟩ := List.exists_cons_of_ne_nil h
  rw [alterLast]
  simp

theorem ne_nil_of_alterLast {α : Type} {f : α → Option α} {elements changed : List α}
    (h : alterLast f elements = some changed) : changed ≠ [] := by
  rintro rfl
  cases elements with
  | nil => cases h
  | cons x rest =>
    cases rest with
    | nil => simp [alterLast] at h
    | cons y rest => simp [alterLast_cons] at h

/-- Two changes of the last element are one. -/
theorem alterLast_bind {α : Type} (f g : α → Option α) (elements : List α) :
    (alterLast f elements).bind (alterLast g) =
      alterLast (fun x => (f x).bind g) elements := by
  induction elements with
  | nil => rfl
  | cons x rest ih =>
    by_cases hrest : rest = []
    · subst hrest
      rw [alterLast, alterLast]
      cases f x <;> rfl
    · rw [alterLast_cons _ _ hrest, alterLast_cons _ _ hrest, ← ih]
      cases hlast : alterLast f rest with
      | none => rfl
      | some changed => exact alterLast_cons g x (ne_nil_of_alterLast hlast)

/-- Two changes at the end of a path are one. The tables that the first change makes on the path are
ones that the second is led into. -/
theorem descend_bind (dotted : Bool) (f g : Origin → Members → Option Members)
    (path : List String) (origin : Origin) (members : Members) :
    (descend dotted f path origin members).bind (descend dotted g path origin) =
      descend dotted (fun origin members => (f origin members).bind (g origin)) path origin
        members := by
  induction path generalizing origin members with
  | nil => rfl
  | cons key path ih =>
    simp only [descend, alter_bind]
    congr
    funext old
    cases old with
    | none =>
      have hadmits : (if dotted then Origin.dottedKey else .deeperHeader).admits dotted = true := by
        cases dotted <;> rfl
      dsimp only
      rw [← ih]
      cases descend dotted f path (if dotted then .dottedKey else .deeperHeader) [] with
      | none => rfl
      | some inner => simp [hadmits]
    | some v =>
      cases v with
      | table origin inner =>
        dsimp only
        by_cases hadmits : origin.admits dotted = true
        · rw [if_pos hadmits, if_pos hadmits, ← ih]
          cases descend dotted f path origin inner with
          | none => rfl
          | some inner => simp [hadmits]
        · rw [if_neg hadmits, if_neg hadmits]
          rfl
      | tables elements =>
        dsimp only
        simp only [← ih, ← alterLast_bind]
        cases alterLast (fun e => descend dotted f path .header e) elements <;> rfl
      | _ => rfl

theorem descend_append (dotted : Bool) (f : Origin → Members → Option Members)
    (front back : List String) (origin : Origin) (members : Members) :
    descend dotted f (front ++ back) origin members =
      descend dotted (descend dotted f back) front origin members := by
  induction front generalizing origin members with
  | nil => rfl
  | cons key front ih => simp only [List.cons_append, descend, ih]

/-! ### Sections -/

/-- The members of a table with some assignments added. -/
def assignAll (entries : List (String × Scalar)) (members : Members) : Option Members :=
  entries.foldlM (fun members (key, v) => assignKey key v.toValue members) members

/-- The members of the table that a header opens, if it may: there is none or only deeper headers
made it. -/
def opened? : Option Value → Option Members
  | none => some []
  | some (.table .deeperHeader inner) => some inner
  | some _ => none

/-- The members with a table at the end of a path that a header opens and some assignments fill. -/
def addTable (front : List String) (key : String) (entries : List (String × Scalar))
    (members : Members) : Option Members :=
  descend false
    (fun _ => alter key fun old => (opened? old >>= assignAll entries).map (.table .header))
    front .header members

theorem openTable_append (front : List String) (key : String) (members : Members) :
    openTable (front ++ [key]) members = addTable front key [] members := by
  rw [openTable, List.getLast?_concat]
  dsimp only
  rw [List.dropLast_concat, addTable]
  congr
  funext _ members
  congr
  funext old
  split
  · rfl
  · rfl
  · next v hv =>
    have hopened : opened? (some v) = none := by
      rw [opened?]
      exact hv
    rw [hopened]
    rfl

theorem assignAll_concat (entries : List (String × Scalar)) (name : String) (v : Scalar)
    (members : Members) :
    assignAll (entries ++ [(name, v)]) members =
      (assignAll entries members).bind (assignKey name v.toValue) := by
  rw [assignAll, List.foldlM_append]
  congr
  funext members
  exact bind_pure (assignKey name v.toValue members)

/-- One more assignment below a header goes into the table that the header opened. -/
theorem addTable_bind (front : List String) (key : String) (entries : List (String × Scalar))
    (name : String) (v : Scalar) (members : Members) :
    (addTable front key entries members).bind
        (descend false (assign [name] v.toValue) (front ++ [key]) .header) =
      addTable front key (entries ++ [(name, v)]) members := by
  have hinside : descend false (assign [name] v.toValue) (front ++ [key]) .header =
      descend false (descend false (assign [name] v.toValue) [key]) front .header :=
    funext fun members => descend_append ..
  rw [hinside, addTable, descend_bind, addTable]
  congr
  funext _ members
  simp only [descend, alter_bind]
  congr
  funext old
  cases hopened : opened? old with
  | none => rfl
  | some inner =>
    simp only [Option.bind_eq_bind, Option.bind_some, assignAll_concat]
    cases assignAll entries inner <;> rfl

/-- The induction is on the assignments that are still to be made. -/
theorem addTable_foldlM (front : List String) (key : String)
    (entries rest : List (String × Scalar)) (members : Members) :
    (addTable front key entries members).bind (fun members =>
        (rest.map fun (name, v) => Statement.assignment [name] v.toValue).foldlM addStatement
          (front ++ [key], members)) =
      (addTable front key (entries ++ rest) members).map fun members =>
        (front ++ [key], members) := by
  induction rest generalizing entries with
  | nil => rw [List.append_nil, Option.map_eq_bind]; rfl
  | cons e rest ih =>
    obtain ⟨name, v⟩ := e
    have hmore := ih (entries ++ [(name, v)])
    rw [List.append_assoc, List.singleton_append, ← addTable_bind] at hmore
    rw [← hmore, Option.bind_assoc]
    congr
    funext members
    simp only [List.map_cons, List.foldlM_cons, addStatement]
    cases descend false (assign [name] v.toValue) (front ++ [key]) .header members <;> rfl

/-- The members with the table of a section. -/
def Section.addTo (s : Section) (members : Members) : Option Members :=
  match s.path.getLast? with
  | none => none
  | some key => addTable s.path.dropLast key s.entries members

/-- The statements of a section add its table. -/
theorem foldlM_addStatement_statements (s : Section) (above : List String) (members : Members) :
    s.statements.foldlM addStatement (above, members) =
      (s.addTo members).map fun members => (s.path, members) := by
  obtain ⟨path, entries⟩ := s
  obtain rfl | ⟨front, key, rfl⟩ := List.eq_nil_or_concat path
  · rfl
  · have hfill := addTable_foldlM front key [] entries members
    rw [List.nil_append, ← openTable_append] at hfill
    rw [List.concat_eq_append, Section.addTo]
    dsimp only
    rw [List.getLast?_concat, List.dropLast_concat]
    dsimp only
    rw [← hfill, Section.statements, List.foldlM_cons, addStatement]
    cases openTable (front ++ [key]) members <;> rfl

/-- The table of a document has the tables of its sections, added one after the other. -/
theorem tableOf_statements (sections : List Section) :
    tableOf (sections.flatMap Section.statements) =
      sections.foldlM (fun members s => s.addTo members) [] := by
  have hall (above : List String) (members : Members) :
      ((sections.flatMap Section.statements).foldlM addStatement (above, members)).map Prod.snd =
        sections.foldlM (fun members s => s.addTo members) members := by
    induction sections generalizing above members with
    | nil => rfl
    | cons s sections ih =>
      rw [List.flatMap_cons, List.foldlM_append, foldlM_addStatement_statements, List.foldlM_cons]
      cases s.addTo members with
      | none => rfl
      | some members => exact ih s.path members
  exact hall [] []

/-- A document of sections with plain keys is read as the tables of its sections. -/
theorem parse_writeSections_eq_addTo {sections : List Section} (h : ∀ s ∈ sections, s.IsPlain) :
    parse (writeSections sections) = sections.foldlM (fun members s => s.addTo members) [] := by
  rw [parse_writeSections h, tableOf_statements]

end Scaffold.Toml

import Scaffold.Proofs.Association.Collections
import Scaffold.Proofs.Entity.SharedKey
import Scaffold.Proofs.Naming.Accessors

/-!
# The columns of a table of pairs

A collection that is many at both ends is stored in a table of pairs, with one column for each end.
The columns are named for the entities of the two classes in lower case, so what keeps them apart is
what tells the two entities apart without regard to case. A class that is related to itself has one
entity at both ends, and two classes can have entities that differ in case alone; in either case the
table has one column name for both ends.

For names in ASCII, it is all a question of the letters and digits in them. Where words start and
end shows only in the case of the letters of an entity, and is lost in the columns.

## Main definitions

* `ManyToMany.thisColumn`, `ManyToMany.otherColumn`: the columns of a table of pairs.
* `Naming.foldedName`: the letters and digits of a name without regard to case.

## Main results

* `Naming.toList_lowercase_entityName`: an entity in lower case.
* `joinColumns_ne_iff`: when the columns of a table of pairs are different.
-/

namespace Scaffold

/-! ### Names without case -/

namespace Unicode

variable {c : Char}

/-- The lower case of a letter or digit does not depend on its case. -/
theorem toLower_case (h : c.isAlphanum = true) :
    c.toUpper.toLower = c.toLower ∧ c.toLower.toLower = c.toLower :=
  forall_isAlphanum h (by decide +kernel)

end Unicode

namespace Naming

/-- The letters and digits of a name in ASCII in lower case, with a fixed word in front unless they
start with a letter. -/
def foldedName (raw : String) : List Char :=
  let letters := (raw.toList.filter Char.isAlphanum).map Char.toLower
  if letters.head?.all Char.isDigit then "entity".toList ++ letters else letters

/-- Capitalizing words makes no difference without regard to case. -/
theorem map_toLower_pascalCase {ws : List (List Char)}
    (h : ∀ word ∈ ws, ∀ c ∈ word, c.isAlphanum = true) :
    (pascalCase ws).map Char.toLower = ws.flatten.map Char.toLower := by
  induction ws with
  | nil => rfl
  | cons word ws ih =>
    obtain ⟨hword, hws⟩ := List.forall_mem_cons.mp h
    have hfirst : (capitalizedWord word).map Char.toLower = word.map Char.toLower := by
      cases word with
      | nil => rfl
      | cons c rest =>
        obtain ⟨hc, hrest⟩ := List.forall_mem_cons.mp hword
        rw [capitalizedWord_of_isAlphanum hword, List.map_cons, List.map_cons,
          (Unicode.toLower_case hc).1, List.map_map]
        exact congrArg (List.cons _)
          (List.map_congr_left fun d hd => (Unicode.toLower_case (hrest d hd)).2)
    rw [pascalCase, List.flatMap_cons, List.map_append, hfirst, List.flatten_cons, List.map_append]
    exact congrArg _ (ih hws)

/-- The type identifier of a name in ASCII is, in lower case, the folded name. -/
theorem toList_lowercase_entityName {raw : String}
    (h : ∀ c ∈ raw.toList, Unicode.isAscii c = true) :
    (Text.lowercase (entityName raw)).toList = foldedName raw := by
  have hentity := List.all_eq_true.mp (isTypeIdentifier_entityName h).2.1
  have hletters : (pascalCase (words raw.toList)).map Char.toLower =
      (raw.toList.filter Char.isAlphanum).map Char.toLower := by
    rw [map_toLower_pascalCase (isAlphanum_of_mem_words h), flatten_words h]
  rw [Text.lowercase, String.toList_ofList, lowercaseChars_of_isAlphanum hentity, foldedName,
    ← hletters]
  rcases words_cases h with hnone | ⟨c, tail, hc, hne, -, -, hpascal⟩
  · rw [entityName, hnone]
    rfl
  · have hdigit : c.toUpper.toLower.isDigit = c.toUpper.isDigit := by
      rw [(Unicode.isDigit_case (Unicode.isAlphanum_toUpper hc)).2]
    rw [entityName_of_words hne, hpascal, startsWithNumeral_cons (Unicode.isAlphanum_toUpper hc),
      List.map_cons, List.head?_cons, Option.all_some, hdigit]
    split_ifs
    · simp
    · simp

end Naming

/-! ### Columns -/

namespace ManyToMany

/-- The column that refers to the holder of a collection. -/
def thisColumn (m : ManyToMany) : String :=
  m.thisTable ++ "_id"

/-- The column that refers to what a collection holds. -/
def otherColumn (m : ManyToMany) : String :=
  m.otherTable ++ "_id"

/-- The line that declares a table of pairs with its two columns. -/
def joinTableLine (table thisColumn otherColumn : String) : String :=
  "    @JoinTable(name = \"" ++ table ++ "\", joinColumns = @JoinColumn(name = \"" ++ thisColumn ++
    "\"), inverseJoinColumns = @JoinColumn(name = \"" ++ otherColumn ++ "\"))"

theorem joinTableLine_eq (m : ManyToMany) :
    joinTableLine m.joinTable m.thisColumn m.otherColumn = "    " ++ m.joinTableMark := by
  have hfront : "    @JoinTable(name = \"" = "    " ++ "@JoinTable(name = \"" := by decide +kernel
  have hbetween : "_id\"), inverseJoinColumns = @JoinColumn(name = \"" =
      "_id" ++ "\"), inverseJoinColumns = @JoinColumn(name = \"" := by
    decide +kernel
  have hback : "_id\"))" = "_id" ++ "\"))" := by decide +kernel
  unfold joinTableLine joinTableMark thisColumn otherColumn
  -- texts that are spelled out are put together again as soon as they are divided
  generalize "    @JoinTable(name = \"" = front at *
  generalize "_id\"), inverseJoinColumns = @JoinColumn(name = \"" = between at *
  generalize "_id\"))" = back at *
  simp only [hfront, hbetween, hback, String.append_assoc]

theorem joinTableMark_mem_marks (m : ManyToMany) : m.joinTableMark ∈ m.toField.marks := by
  simp [toField]

theorem columns_eq_iff (m : ManyToMany) :
    m.thisColumn = m.otherColumn ↔ m.thisTable = m.otherTable := by
  rw [thisColumn, otherColumn, String.append_left_inj]

end ManyToMany

/-- What marks a field of an entity is in its source. -/
theorem Context.Entity.hasLine_mark {e : Context.Entity} {f : SourceField} (hf : f ∈ e.fields)
    {mark : String} (hmark : mark ∈ f.marks) : HasLine e.source ("    " ++ mark) := by
  refine hasLine_textOfLines ?_
  simp only [List.mem_append, List.mem_flatMap]
  exact Or.inl (Or.inl (Or.inl (Or.inl (Or.inr ⟨f, hf, by simp [SourceField.declaration, hmark]⟩))))

/-- A collection stored in a table of pairs goes from the class that is found under the identifier
of its holder to a class of the diagram. -/
theorem Index.exists_between_of_mem_manyToMany {d : Diagram} {c : ClassBox} {m : ManyToMany}
    (h : m ∈ ((ofDiagram d).relations c).manyToMany) :
    ∃ source target, (ofDiagram d).findId? c.id = some source ∧ target ∈ d.classes ∧
      m = .between source.entity target.entity := by
  obtain ⟨r, -, source, target, hends, -, hid, -, rfl⟩ := mem_relations_manyToMany.mp h
  obtain ⟨hsource, htarget⟩ := ends_eq_some_iff.mp hends
  have hfound := hsource
  rw [findId?_ofDiagram] at hfound
  have hsourceId : source.id = r.sourceId := by simpa using List.find?_some hfound
  exact ⟨source, target, by rw [← hid, hsourceId, hsource], mem_of_findId? htarget, rfl⟩

/-- **When the columns of a table of pairs are different.** Every collection of a class that is
stored in a table of pairs is declared with that table and its two columns. They are different
exactly if the entity of the class and that of the other class are, in lower case. Where the names
of the two classes are in ASCII, that is the case exactly if their letters and digits are different
without regard to case. -/
theorem joinColumns_ne_iff (d : Diagram) (basePackage : String) (c : ClassBox) :
    let entity := (Index.ofDiagram d).entityLayer basePackage c
    ∀ m ∈ entity.manyToMany,
      HasLine entity.source
        (ManyToMany.joinTableLine m.joinTable m.thisColumn m.otherColumn) ∧
      ∃ source target, (Index.ofDiagram d).findId? c.id = some source ∧ target ∈ d.classes ∧
        m = .between source.entity target.entity ∧
        (m.thisColumn ≠ m.otherColumn ↔
          Text.lowercase source.entity ≠ Text.lowercase target.entity) ∧
        (source.name.toList.all Unicode.isAscii = true →
          target.name.toList.all Unicode.isAscii = true →
            (m.thisColumn ≠ m.otherColumn ↔
              Naming.foldedName source.name ≠ Naming.foldedName target.name)) := by
  intro entity m hm
  have hfield : m.toField ∈ entity.fields := List.mem_append_right _ (List.mem_map_of_mem hm)
  have hline := Context.Entity.hasLine_mark hfield m.joinTableMark_mem_marks
  change m ∈ ((Index.ofDiagram d).relations c).manyToMany at hm
  obtain ⟨source, target, hsource, htarget, hbetween⟩ := Index.exists_between_of_mem_manyToMany hm
  have hcolumns : m.thisColumn = m.otherColumn ↔
      Text.lowercase source.entity = Text.lowercase target.entity := by
    rw [m.columns_eq_iff, hbetween, ManyToMany.between]
  refine ⟨?_, source, target, hsource, htarget, hbetween, hcolumns.not, ?_⟩
  · rw [m.joinTableLine_eq]
    exact hline
  · intro hsourceAscii htargetAscii
    rw [ne_eq, hcolumns, ← String.toList_inj, ClassBox.entity, ClassBox.entity,
      Naming.toList_lowercase_entityName (List.all_eq_true.mp hsourceAscii),
      Naming.toList_lowercase_entityName (List.all_eq_true.mp htargetAscii)]

/-- Persons that know each other and go to clubs. -/
def friendsDiagram : Diagram where
  classes := [.named "p" "Person", .named "c" "club"]
  relationships :=
    [.between .association "p" "p" ["*", "*"], .between .association "p" "c" ["*", "*"]]

theorem joinColumns_ne_iff_friends :
    let person := (Index.ofDiagram friendsDiagram).entityLayer "com.example" (.named "p" "Person")
    ManyToMany.between "Person" "Club" ∈ person.manyToMany ∧
      (ManyToMany.between "Person" "Club").thisColumn ≠
        (ManyToMany.between "Person" "Club").otherColumn := by
  intro person
  have hmem : ManyToMany.between "Person" "Club" ∈ person.manyToMany := by decide +kernel
  obtain ⟨-, source, target, hsource, htarget, hbetween, -, hcolumns⟩ :=
    joinColumns_ne_iff friendsDiagram "com.example" (.named "p" "Person") _ hmem
  obtain rfl : ClassBox.named "p" "Person" = source := by
    have hfound : (Index.ofDiagram friendsDiagram).findId? "p" = some (.named "p" "Person") := by
      decide +kernel
    exact Option.some.inj (hfound.symm.trans hsource)
  obtain rfl : target = ClassBox.named "c" "club" := by
    have hentity := congrArg ManyToMany.targetEntity hbetween
    have hclub : ∀ c ∈ friendsDiagram.classes, "Club" = c.entity → c = .named "c" "club" := by
      decide +kernel
    exact hclub target htarget hentity
  exact ⟨hmem, (hcolumns (by decide) (by decide)).mpr (by decide)⟩

/-- A table of pairs can have one column name for both ends. -/
theorem exists_joinColumns_eq :
    let person := (Index.ofDiagram friendsDiagram).entityLayer "com.example" (.named "p" "Person")
    ∃ m ∈ person.manyToMany, m.thisColumn = m.otherColumn ∧
      HasLine person.source (ManyToMany.joinTableLine "person_person" "person_id" "person_id") := by
  intro person
  have hmem : ManyToMany.between "Person" "Person" ∈ person.manyToMany := by decide +kernel
  have hfield : (ManyToMany.between "Person" "Person").toField ∈ person.fields :=
    List.mem_append_right _ (List.mem_map_of_mem hmem)
  have hline := Context.Entity.hasLine_mark hfield (ManyToMany.joinTableMark_mem_marks _)
  have hjoinTable : "    " ++ (ManyToMany.between "Person" "Person").joinTableMark =
      ManyToMany.joinTableLine "person_person" "person_id" "person_id" := by
    decide +kernel
  rw [hjoinTable] at hline
  exact ⟨_, hmem, rfl, hline⟩

end Scaffold

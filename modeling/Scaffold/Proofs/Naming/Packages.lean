import Scaffold.Naming.Identifier
import Scaffold.Proofs.Naming.Accessors

/-!
# The grammar of package names

A package name is read by cutting it at its dots and looking at each piece. What is accepted that
way is a grammar: words with dots between them, at least one, where a word is made of letters,
digits and underscores of ASCII and does not start with a digit. Cutting and joining undo each
other as long as no word has a dot in it (`Text.intercalate_splitAt`, `Text.splitAt_intercalate`),
so a name has only one sequence of words, and a condition on the words of some sequence is one on
the pieces.

The generated language has fewer packages than that. A reserved word is no identifier, and the
pieces are not compared with the reserved words.

## Main definitions

* `Naming.IsDotted`: a sequence of words with dots between them.
* `Naming.IsSegmentWord`: a word of a package name.
* `Naming.IsPackageName`: a name under which the generated language can have a package.

## Main results

* `Naming.isPackage_iff`: which names are accepted.
* `Naming.isPackageName_iff`: which of them are names of packages.
-/

namespace Scaffold

namespace Text

variable {separator : Char}

theorem splitAt_append_char (front back : List Char) :
    splitAt (· == separator) (front ++ separator :: back) =
      splitAt (· == separator) front ++ splitAt (· == separator) back :=
  splitAt_append_separator front (by simp) back

/-- The pieces of a text, joined with the separator, are the text. -/
theorem intercalate_splitAt (separator : Char) (s : List Char) :
    [separator].intercalate (splitAt (· == separator) s) = s := by
  induction s with
  | nil => rfl
  | cons c rest ih =>
    have hne : splitAt (· == separator) rest ≠ [] := splitAt_ne_nil rest
    obtain ⟨piece, pieces, hsplit⟩ := List.exists_cons_of_ne_nil hne
    rw [hsplit] at ih
    by_cases hc : c = separator
    · have hcut : splitAt (· == separator) (c :: rest) = [] :: piece :: pieces := by
        rw [hc, ← hsplit]
        exact splitAt_append_char [] rest
      rw [hcut, List.intercalate_cons_cons, ih, hc]
      rfl
    · have hcut : splitAt (· == separator) (c :: rest) = (c :: piece) :: pieces := by
        rw [splitAt, hsplit, if_neg (by simpa using hc)]
      rw [hcut, ← ih]
      cases pieces with
      | nil => rfl
      | cons next pieces => rfl

/-- Pieces without the separator are found again in the text that they are joined to. -/
theorem splitAt_intercalate {pieces : List (List Char)} (hne : pieces ≠ [])
    (h : ∀ piece ∈ pieces, separator ∉ piece) :
    splitAt (· == separator) ([separator].intercalate pieces) = pieces := by
  have hfree : ∀ piece ∈ pieces, ∀ c ∈ piece, (c == separator) = false := by
    intro piece hpiece c hc
    exact beq_eq_false_iff_ne.mpr fun heq => h piece hpiece (heq ▸ hc)
  induction pieces with
  | nil => exact absurd rfl hne
  | cons piece pieces ih =>
    obtain ⟨hpiece, hpieces⟩ := List.forall_mem_cons.mp hfree
    cases pieces with
    | nil => rw [List.intercalate_singleton, splitAt_of_forall_not hpiece]
    | cons next pieces =>
      have ih := ih (List.cons_ne_nil _ _) (List.forall_mem_cons.mp h).2 hpieces
      rw [List.intercalate_cons_cons, List.append_assoc, List.singleton_append,
        splitAt_append_char, ih, splitAt_of_forall_not hpiece, List.singleton_append]

end Text

namespace Naming

/-- The pieces of a name between its dots, in order. -/
def dotPieces (name : String) : List String :=
  (Text.splitAt (· == '.') name.toList).map String.ofList

/-- A sequence of words of some kind, at least one, with dots between them. -/
def IsDotted (IsWord : String → Prop) (name : String) : Prop :=
  ∃ words, words ≠ [] ∧ (∀ word ∈ words, IsWord word) ∧ name = ".".intercalate words

/-- An identifier of the generated language in ASCII, reserved words included: letters, digits and
underscores, at least one, without a digit at the start. -/
def IsSegmentWord (s : String) : Prop :=
  s ≠ "" ∧ (∀ c ∈ s.toList, c.isAlphanum = true ∨ c = '_') ∧ ∀ c ∈ s.toList.head?, c.isDigit = false

/-- A name under which the generated language can have a package: no word of it is reserved. -/
def IsPackageName (name : String) : Prop :=
  IsDotted (fun word => IsSegmentWord word ∧ word ∉ reservedWords) name

/-! ### Words with dots between them -/

theorem dotPieces_ne_nil (name : String) : dotPieces name ≠ [] := by
  rw [dotPieces, ne_eq, List.map_eq_nil_iff]
  exact Text.splitAt_ne_nil _

theorem intercalate_dotPieces (name : String) : ".".intercalate (dotPieces name) = name := by
  have hdot : ".".toList = ['.'] := rfl
  rw [← String.toList_inj, String.toList_intercalate, dotPieces, List.map_map]
  simp only [Function.comp_def, String.toList_ofList, List.map_id', hdot, Text.intercalate_splitAt]

theorem dotPieces_intercalate {words : List String} (hne : words ≠ [])
    (h : ∀ word ∈ words, '.' ∉ word.toList) : dotPieces (".".intercalate words) = words := by
  have hdot : ".".toList = ['.'] := rfl
  have hpieces : words.map String.toList ≠ [] := by simpa using hne
  rw [dotPieces, String.toList_intercalate, hdot,
    Text.splitAt_intercalate hpieces (List.forall_mem_map.mpr h), List.map_map]
  simp [Function.comp_def]

/-- Where words have no dots in them, a name is a sequence of them if its pieces are words. -/
theorem isDotted_iff {IsWord : String → Prop} (hdot : ∀ word, IsWord word → '.' ∉ word.toList)
    {name : String} : IsDotted IsWord name ↔ ∀ piece ∈ dotPieces name, IsWord piece := by
  constructor
  · rintro ⟨words, hne, hwords, rfl⟩
    rwa [dotPieces_intercalate hne fun word hword => hdot word (hwords word hword)]
  · intro hpieces
    exact ⟨dotPieces name, dotPieces_ne_nil name, hpieces, (intercalate_dotPieces name).symm⟩

/-- The pieces of a name that is continued behind a dot. -/
theorem dotPieces_append (name back : String) :
    dotPieces (name ++ "." ++ back) = dotPieces name ++ dotPieces back := by
  have hdot : ".".toList = ['.'] := rfl
  rw [dotPieces, String.toList_append, String.toList_append, hdot, List.append_assoc,
    List.singleton_append, Text.splitAt_append_char, List.map_append]
  rfl

/-! ### Names of packages -/

theorem IsSegmentWord.not_dot {word : String} (h : IsSegmentWord word) : '.' ∉ word.toList := by
  intro hmem
  exact absurd (h.2.1 '.' hmem) (by decide)

theorem isSegmentStart_iff {c : Char} :
    isSegmentStart c = true ↔ (c.isAlphanum = true ∨ c = '_') ∧ c.isDigit = false := by
  have hunderscore : '_'.isDigit = false := by decide
  rw [isSegmentStart, Bool.or_eq_true, beq_iff_eq]
  constructor
  · rintro (hletter | rfl)
    · have halphanum : c.isAlphanum = true := by simp [Char.isAlphanum, hletter]
      exact ⟨.inl halphanum, by simpa [hletter] using Unicode.isAlpha_eq_not_isDigit halphanum⟩
    · exact ⟨.inr rfl, hunderscore⟩
  · rintro ⟨halphanum | rfl, hdigit⟩
    · exact .inl (by rw [Unicode.isAlpha_eq_not_isDigit halphanum, hdigit, Bool.not_false])
    · exact .inr rfl

theorem isSegment_iff (s : List Char) : isSegment s = true ↔ IsSegmentWord (String.ofList s) := by
  rw [IsSegmentWord, String.toList_ofList]
  cases s with
  | nil => simp [isSegment]
  | cons c rest =>
    have hrest : rest.all isSegmentRest = true ↔ ∀ d ∈ rest, d.isAlphanum = true ∨ d = '_' := by
      simp [isSegmentRest]
    rw [isSegment, Bool.and_eq_true, isSegmentStart_iff, hrest, List.forall_mem_cons]
    simp [and_assoc, and_comm]

/-- The names that are accepted are the sequences of words with dots between them. -/
theorem isPackage_iff {name : String} : isPackage name = true ↔ IsDotted IsSegmentWord name := by
  rw [isDotted_iff fun _ hword => hword.not_dot, dotPieces, List.forall_mem_map, isPackage,
    List.all_eq_true]
  exact forall₂_congr fun s _ => isSegment_iff s

/-- The names of packages are those that are accepted and have no reserved word in them. -/
theorem isPackageName_iff {name : String} :
    IsPackageName name ↔
      isPackage name = true ∧ ∀ piece ∈ dotPieces name, piece ∉ reservedWords := by
  rw [isPackage_iff, IsPackageName, isDotted_iff fun _ hword => hword.1.not_dot,
    isDotted_iff fun _ hword => hword.not_dot]
  exact forall₂_and

/-- Below a package, the packages are those with names of their own. -/
theorem isPackageName_append_iff {name back : String} :
    IsPackageName (name ++ "." ++ back) ↔ IsPackageName name ∧ IsPackageName back := by
  have hdot : ∀ word, IsSegmentWord word ∧ word ∉ reservedWords → '.' ∉ word.toList :=
    fun _ hword => hword.1.not_dot
  rw [IsPackageName, IsPackageName, IsPackageName, isDotted_iff hdot, isDotted_iff hdot,
    isDotted_iff hdot, dotPieces_append, List.forall_mem_append]

end Naming

end Scaffold

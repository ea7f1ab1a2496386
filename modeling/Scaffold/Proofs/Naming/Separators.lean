import Scaffold.Proofs.Naming.Ascii

/-!
# Separators in names

What separates the words of a name does not get into its identifiers. Where a word ends inside a run
of letters and numbers is decided by up to three neighbouring letters, but no such decision looks
across a separator. So a name that is put together at separators has the words of its parts, and its
type identifier is the two type identifiers put together as long as neither needs the fixed word in
front. Which separators stand between two runs, and how many, makes no difference; white space
around a name is the simplest case.

## Main definitions

* `Naming.StartsWithLetter`: the first letter or number of a name is a letter of ASCII.
* `Naming.AreSeparators`, `Naming.DifferInSeparators`: separators, and names that differ only in
  them.

## Main results

* `Naming.entityName_trim`, `Naming.fieldName_trim`: the identifiers of a trimmed name.
* `Naming.DifferInSeparators.words_eq`: the words of names that differ in their separators.
* `Naming.entityName_separators`: the type identifiers of names with separators.
-/

namespace Scaffold.Naming

/-! ### White space around a name -/

theorem entityName_trim (raw : String) : entityName (Text.trim raw) = entityName raw := by
  rw [entityName, entityName, words_trim]

theorem fieldName_trim (raw : String) : fieldName (Text.trim raw) = fieldName raw := by
  rw [fieldName, fieldName, words_trim]

/-! ### Names that are put together -/

/-- Separators, at least one. -/
def AreSeparators (s : List Char) : Prop :=
  s ≠ [] ∧ s.all isSeparator = true

theorem AreSeparators.exists_cons {s : List Char} (h : AreSeparators s) :
    ∃ c rest, s = c :: rest ∧ isSeparator c = true ∧ rest.all isSeparator = true := by
  obtain ⟨hne, hall⟩ := h
  obtain ⟨c, rest, rfl⟩ := List.exists_cons_of_ne_nil hne
  rw [List.all_cons, Bool.and_eq_true] at hall
  exact ⟨c, rest, rfl, hall⟩

/-- The runs behind separators, or behind nothing. -/
theorem fields_behind {s : List Char} (hs : s.all isSeparator = true) (a : List Char) :
    Text.fields isSeparator (s ++ a) = Text.fields isSeparator a :=
  Text.fields_append_of_forall (List.all_eq_true.mp hs) a

/-- The first letter or number of a name is a letter of ASCII. -/
def StartsWithLetter (raw : String) : Prop :=
  (raw.toList.find? Unicode.isAlphanumeric).any Char.isAlpha = true

theorem StartsWithLetter.exists_find? {raw : String} (h : StartsWithLetter raw) :
    ∃ c, raw.toList.find? Unicode.isAlphanumeric = some c ∧ c.isAlpha = true :=
  Option.any_eq_true _ _ |>.mp h

/-- The words of a name that starts with a letter do not start with a numeral. -/
theorem StartsWithLetter.exists_words {raw : String} (h : StartsWithLetter raw) :
    ∃ word others, words raw.toList = word :: others ∧
      startsWithNumeral (pascalCase (word :: others)) = false := by
  obtain ⟨c, hfind, hc⟩ := h.exists_find?
  have hhead := (head?_flatten_words raw.toList).trans hfind
  cases hwords : words raw.toList with
  | nil => simp [hwords] at hhead
  | cons word others =>
    have hne : word ≠ [] := ne_nil_of_mem_words (show word ∈ words raw.toList by simp [hwords])
    obtain ⟨first, rest, hfirst, rfl, hcapital⟩ := exists_capitalizedWord hne
    obtain ⟨d, marks, rfl⟩ := List.exists_cons_of_ne_nil hfirst
    obtain rfl : d = c := by simpa [hwords] using hhead
    have halphanum : d.isAlphanum = true := by simp [Char.isAlphanum, hc]
    have hascii := Unicode.isAscii_of_isAlphanum halphanum
    have hupper := Unicode.isAscii_of_isAlphanum (Unicode.isAlphanum_toUpper halphanum)
    refine ⟨_, _, rfl, ?_⟩
    rw [startsWithNumeral, pascalCase, List.flatMap_cons, hcapital, List.flatMap_cons,
      Unicode.upper_of_isAscii hascii]
    simpa [Unicode.isNumeric_of_isAscii hupper] using Unicode.not_isDigit_toUpper hc

/-- A name that starts with a letter does not start with a mark. -/
theorem StartsWithLetter.not_isMark {raw : String} (h : StartsWithLetter raw) :
    ∀ c ∈ raw.toList.find? Unicode.isAlphanumeric, Unicode.isMark c = false := by
  obtain ⟨c, hfind, hc⟩ := h.exists_find?
  intro d hd
  obtain rfl : c = d := Option.some.inj (hfind.symm.trans hd)
  exact not_isMark_of_isAlphanum (by simp [Char.isAlphanum, hc])

/-- The type identifier of a name that starts with a letter is its words, capitalized. -/
theorem entityName_of_startsWithLetter {raw : String} (h : StartsWithLetter raw) :
    entityName raw = String.ofList (pascalCase (words raw.toList)) := by
  obtain ⟨word, others, hwords, hnumeral⟩ := h.exists_words
  rw [entityName, hwords]
  simp [hnumeral]

/-- A name that is put together at separators starts with a letter if its first part does. -/
theorem StartsWithLetter.append {a : String} (h : StartsWithLetter a) (t : String) :
    StartsWithLetter (a ++ t) := by
  obtain ⟨c, hfind, hc⟩ := h.exists_find?
  rw [StartsWithLetter, String.toList_append, List.find?_append, hfind]
  exact hc

theorem entityName_append_separators {a b s : String} (ha : StartsWithLetter a)
    (hb : StartsWithLetter b) (hs : AreSeparators s.toList) :
    entityName (a ++ s ++ b) = entityName a ++ entityName b := by
  rw [String.append_assoc, entityName_of_startsWithLetter (ha.append (s ++ b)),
    entityName_of_startsWithLetter ha, entityName_of_startsWithLetter hb, ← String.ofList_append,
    String.toList_append, String.toList_append,
    words_append_separators hs.1 hs.2 a.toList hb.not_isMark, pascalCase, List.flatMap_append,
    pascalCase, pascalCase]

/-! ### Names that differ in their separators -/

/-- Texts that are the same but for their separators: where the one has separators the other has
some too, and at its end either may have none. -/
inductive Respaced : List Char → List Char → Prop
  | ends {s t : List Char} : (s ++ t).all isSeparator = true → Respaced s t
  | same {c : Char} {a b : List Char} : Respaced a b → Respaced (c :: a) (c :: b)
  | gap {s t a b : List Char} : AreSeparators s → AreSeparators t → Respaced a b →
      Respaced (s ++ a) (t ++ b)

/-- Names that differ only in their separators. At its start, too, either may have none. -/
def DifferInSeparators (a b : String) : Prop :=
  ∃ s t a' b', (s ++ t).all isSeparator = true ∧ Respaced a' b' ∧
    a.toList = s ++ a' ∧ b.toList = t ++ b'

/-- The pieces of a text that starts with separators: an empty one, and those with the runs. -/
theorem splitAt_separators {s : List Char} (hs : AreSeparators s) (a : List Char) :
    ∃ pieces, Text.splitAt isSeparator (s ++ a) = [] :: pieces ∧
      pieces.filter (fun piece => !piece.isEmpty) = Text.fields isSeparator a := by
  obtain ⟨c, rest, rfl, hc, hrest⟩ := hs.exists_cons
  exact ⟨_, by simp [Text.splitAt, hc], fields_behind hrest a⟩

theorem splitAt_end {s : List Char} (hs : s.all isSeparator = true) :
    ∃ pieces, Text.splitAt isSeparator s = [] :: pieces ∧
      pieces.filter (fun piece => !piece.isEmpty) = [] := by
  by_cases hne : s = []
  · exact ⟨[], by rw [hne]; rfl, rfl⟩
  · have hpieces := splitAt_separators ⟨hne, hs⟩ []
    rwa [List.append_nil] at hpieces

/-- Texts that differ only in their separators have the same first piece, and behind it the same
runs. The first piece has to be kept apart: a character in front may belong to it. -/
theorem Respaced.splitAt {a b : List Char} (h : Respaced a b) :
    ∃ piece pieces pieces', Text.splitAt isSeparator a = piece :: pieces ∧
      Text.splitAt isSeparator b = piece :: pieces' ∧
      pieces.filter (fun piece => !piece.isEmpty) =
        pieces'.filter (fun piece => !piece.isEmpty) := by
  induction h with
  | @ends s t h =>
    rw [List.all_append, Bool.and_eq_true] at h
    obtain ⟨pieces, hs, hpieces⟩ := splitAt_end h.1
    obtain ⟨pieces', ht, hpieces'⟩ := splitAt_end h.2
    exact ⟨[], pieces, pieces', hs, ht, by rw [hpieces, hpieces']⟩
  | @same c a b _ ih =>
    obtain ⟨piece, pieces, pieces', ha, hb, hpieces⟩ := ih
    by_cases hc : isSeparator c = true
    · refine ⟨[], piece :: pieces, piece :: pieces', by simp [Text.splitAt, hc, ha],
        by simp [Text.splitAt, hc, hb], ?_⟩
      rw [List.filter_cons, List.filter_cons, hpieces]
    · exact ⟨c :: piece, pieces, pieces', by simp [Text.splitAt, hc, ha],
        by simp [Text.splitAt, hc, hb], hpieces⟩
  | @gap s t a b hs ht _ ih =>
    obtain ⟨piece, rest, rest', ha, hb, hrest⟩ := ih
    obtain ⟨pieces, hs, hpieces⟩ := splitAt_separators hs a
    obtain ⟨pieces', ht, hpieces'⟩ := splitAt_separators ht b
    refine ⟨[], pieces, pieces', hs, ht, ?_⟩
    rw [hpieces, hpieces', Text.fields, Text.fields, ha, hb, List.filter_cons, List.filter_cons,
      hrest]

/-- Names that differ only in their separators have the same words. -/
theorem DifferInSeparators.words_eq {a b : String} (h : DifferInSeparators a b) :
    words a.toList = words b.toList := by
  obtain ⟨s, t, a', b', hends, hrespaced, ha, hb⟩ := h
  rw [List.all_append, Bool.and_eq_true] at hends
  obtain ⟨piece, pieces, pieces', ha', hb', hpieces⟩ := hrespaced.splitAt
  rw [words, words, spaced, spaced, ha, hb, fields_behind hends.1, fields_behind hends.2,
    Text.fields, Text.fields, ha', hb', List.filter_cons, List.filter_cons, hpieces]

/-- The type identifier of a name that is put together at separators, and of names that differ only
in their separators. -/
theorem entityName_separators :
    (∀ a b s : String, StartsWithLetter a → StartsWithLetter b → AreSeparators s.toList →
      entityName (a ++ s ++ b) = entityName a ++ entityName b) ∧
    ∀ a b : String, DifferInSeparators a b → entityName a = entityName b := by
  refine ⟨fun a b s ha hb hs => entityName_append_separators ha hb hs, fun a b h => ?_⟩
  rw [entityName, entityName, h.words_eq]

theorem entityName_separators_order_item :
    (StartsWithLetter "HTTPServer" ∧ StartsWithLetter "id3" ∧ AreSeparators "-_".toList ∧
      entityName ("HTTPServer" ++ "-_" ++ "id3") = entityName "HTTPServer" ++ entityName "id3") ∧
    DifferInSeparators " 3d_item" "3d -item." ∧ entityName " 3d_item" = entityName "3d -item." := by
  have hletter : StartsWithLetter "HTTPServer" ∧ StartsWithLetter "id3" := ⟨rfl, rfl⟩
  have hs : AreSeparators "-_".toList := ⟨by decide, rfl⟩
  have hitem : Respaced "item".toList "item.".toList :=
    .same (.same (.same (.same (.ends rfl))))
  have hgap : AreSeparators ['_'] ∧ AreSeparators [' ', '-'] :=
    ⟨⟨by decide, rfl⟩, by decide, rfl⟩
  have hdiffer : DifferInSeparators " 3d_item" "3d -item." :=
    ⟨[' '], [], _, _, rfl, .same (.same (.gap hgap.1 hgap.2 hitem)), rfl, rfl⟩
  exact ⟨⟨hletter.1, hletter.2, hs, entityName_separators.1 _ _ _ hletter.1 hletter.2 hs⟩,
    hdiffer, entityName_separators.2 _ _ hdiffer⟩

end Scaffold.Naming

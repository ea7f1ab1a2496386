import Mathlib.Data.List.SplitBy
import Scaffold.Naming.Identifier
import Scaffold.Proofs.Text.Basic
import Scaffold.Proofs.Unicode.Solid

/-!
# The words of a name

The words of a name are made of its letters and numbers, and of spaces that marks stand with. They
start with the first letter or number of the name and end with its last one. Nothing looks at the
white space around a name, since it only separates.

Where a word ends is decided by up to three neighbouring letters, and no such decision looks across
a single space. So a text that is put together at a space has the words of its parts, and a name
whose runs do not start with marks has the words of its runs.

## Main definitions

* `Naming.Unmarked`: no run of a name starts with a mark.

## Main results

* `Naming.flatten_cutWords`: the words of a text together are its letters but the spaces.
* `Naming.ends_flatten_words`: the words of a name start and end as the name does.
* `Naming.cutWords_append_space`: the words of a text that is put together at a space.
* `Naming.words_append_separators`: the words of a name that is put together at separators.
* `Naming.Unmarked.words_eq`: the words of a name are those of its runs.
-/

namespace Scaffold.Naming

open Unicode (isPlain isSolid)

/-! ### Letters -/

theorem flatten_letters (s : List Char) : (letters s).flatten = s :=
  List.flatten_splitBy _ s

theorem letters_eq_nil {s : List Char} : letters s = [] ↔ s = [] :=
  List.splitBy_eq_nil

theorem ne_nil_of_mem_letters {s a : List Char} (h : a ∈ letters s) : a ≠ [] :=
  List.ne_nil_of_mem_splitBy h

/-- A character that is no mark starts a letter. -/
theorem letters_append_cons (s : List Char) {c : Char} (hc : Unicode.isMark c = false)
    (t : List Char) : letters (s ++ c :: t) = letters s ++ letters (c :: t) :=
  List.splitBy_append_cons t fun _ _ => hc

/-- In front of a character that is no mark, and at the end, a character is a letter. -/
theorem letters_cons (c : Char) {s : List Char} (h : ∀ d ∈ s.head?, Unicode.isMark d = false) :
    letters (c :: s) = [c] :: letters s :=
  List.splitBy_append (l := [c]) fun _ _ d hd => h d hd

/-- Without marks every character is a letter. -/
theorem letters_of_forall_not_isMark {s : List Char} (h : ∀ c ∈ s, Unicode.isMark c = false) :
    letters s = s.map fun c => [c] := by
  induction s with
  | nil => rfl
  | cons c s ih =>
    have hs := (List.forall_mem_cons.mp h).2
    rw [letters_cons c fun d hd => hs d (List.mem_of_head? hd), ih hs, List.map_cons]

/-! ### Words -/

theorem cutWords_ne_nil (ls : List (List Char)) : cutWords ls ≠ [] := by
  fun_cases cutWords ls <;> simp

/-- The words of a text together are its letters but the spaces. -/
theorem flatten_cutWords (ls : List (List Char)) :
    (cutWords ls).flatten = (ls.filter fun a => a != [' ']).flatten := by
  fun_induction cutWords ls with
  | case1 => rfl
  | case2 rest ih => simpa using ih
  | case3 a rest hspace hnone => exact absurd hnone (cutWords_ne_nil rest)
  | case4 a rest hspace word words hcut hends ih
  | case5 a rest hspace word words hcut hends ih => simpa [hcut, hspace] using ih

theorem ne_nil_of_mem_words {raw word : List Char} (h : word ∈ words raw) : word ≠ [] := by
  simpa using (List.mem_filter.mp h).2

theorem flatten_words_eq (raw : List Char) :
    (words raw).flatten = ((letters (spaced raw)).filter fun a => a != [' ']).flatten := by
  rw [words, List.flatten_filter_not_isEmpty, flatten_cutWords]

/-- The runs of a name are made of its letters and numbers. -/
theorem mem_of_mem_fields {raw run : List Char} (hrun : run ∈ Text.fields isSeparator raw)
    {c : Char} (hc : c ∈ run) : c ∈ raw ∧ Unicode.isAlphanumeric c = true := by
  have hmem : c ∈ raw.filter fun c => !isSeparator c := by
    rw [← Text.flatten_fields]
    exact List.mem_flatten.mpr ⟨run, hrun, hc⟩
  simpa [isSeparator] using List.mem_filter.mp hmem

/-- Between the runs of a name there are spaces. -/
theorem mem_spaced {raw : List Char} {c : Char} (h : c ∈ spaced raw) :
    c = ' ' ∨ c ∈ raw ∧ Unicode.isAlphanumeric c = true := by
  have hruns : ∀ run ∈ Text.fields isSeparator raw, ∀ c ∈ run,
      c ∈ raw ∧ Unicode.isAlphanumeric c = true := fun _ hrun _ => mem_of_mem_fields hrun
  rw [spaced] at h
  generalize Text.fields isSeparator raw = runs at hruns h
  induction runs with
  | nil => cases h
  | cons run runs ih =>
    obtain ⟨hrun, hruns⟩ := List.forall_mem_cons.mp hruns
    cases runs with
    | nil => exact .inr (hrun c (by simpa using h))
    | cons next runs =>
      rw [List.intercalate_cons_cons, List.mem_append, List.mem_append, List.mem_singleton] at h
      rcases h with (h | rfl) | h
      · exact .inr (hrun c h)
      · exact .inl rfl
      · exact ih hruns h

theorem mem_spaced_of_mem_words {raw word : List Char} (h : word ∈ words raw) {c : Char}
    (hc : c ∈ word) : c ∈ spaced raw := by
  have hmem : c ∈ (words raw).flatten := List.mem_flatten.mpr ⟨word, h, hc⟩
  rw [flatten_words_eq, List.mem_flatten] at hmem
  obtain ⟨a, ha, hc⟩ := hmem
  rw [← flatten_letters (spaced raw)]
  exact List.mem_flatten.mpr ⟨a, List.mem_of_mem_filter ha, hc⟩

/-- The words of a name are made of plain characters. -/
theorem isPlain_of_mem_words {raw word : List Char} (h : word ∈ words raw) :
    ∀ c ∈ word, isPlain c = true := by
  intro c hc
  rw [isPlain, Bool.or_eq_true, beq_iff_eq]
  rcases mem_spaced (mem_spaced_of_mem_words h hc) with rfl | ⟨-, hletter⟩
  · exact .inr rfl
  · exact .inl (Unicode.isSolid_of_isAlphanumeric hletter)

/-! ### The ends of the words -/

/-- Between runs that are not empty spaces make no difference at the ends. -/
theorem ends_intercalate {runs : List (List Char)} (h : ∀ run ∈ runs, run ≠ []) :
    ([' '].intercalate runs).head? = runs.flatten.head? ∧
      ([' '].intercalate runs).getLast? = runs.flatten.getLast? := by
  induction runs with
  | nil => exact ⟨rfl, rfl⟩
  | cons run runs ih =>
    obtain ⟨hrun, hruns⟩ := List.forall_mem_cons.mp h
    cases runs with
    | nil => simp
    | cons next runs =>
      obtain ⟨-, hlast⟩ := ih hruns
      have hnext : (next :: runs).flatten ≠ [] := by simp [hruns next List.mem_cons_self]
      have hbehind : [' '].intercalate (next :: runs) ≠ [] := by
        rwa [ne_eq, ← List.getLast?_eq_none_iff, hlast, List.getLast?_eq_none_iff]
      rw [List.intercalate_cons_cons, List.append_assoc, List.flatten_cons,
        List.head?_append_of_ne_nil _ hrun, List.head?_append_of_ne_nil _ hrun, ← List.append_assoc,
        List.getLast?_append_of_ne_nil _ hbehind, List.getLast?_append_of_ne_nil _ hnext]
      exact ⟨rfl, hlast⟩

theorem ends_spaced (raw : List Char) :
    (spaced raw).head? = raw.find? Unicode.isAlphanumeric ∧
      (spaced raw).getLast? = (raw.filter Unicode.isAlphanumeric).getLast? := by
  have hflatten : (Text.fields isSeparator raw).flatten = raw.filter Unicode.isAlphanumeric := by
    simp [Text.flatten_fields, isSeparator]
  rw [spaced, ← List.head?_filter, ← hflatten]
  exact ends_intercalate fun run hrun => Text.ne_nil_of_mem_fields hrun

/-- Where the first letter gives an answer other than a space, it is not dropped. -/
theorem findSome?_filter_letters {f : List Char → Option Char} {ls : List (List Char)}
    (hf : ∀ a ∈ ls, f a ≠ none) (hspace : f [' '] = some ' ') (h : ls.findSome? f ≠ some ' ') :
    (ls.filter fun a => a != [' ']).findSome? f = ls.findSome? f := by
  cases ls with
  | nil => rfl
  | cons a rest =>
    obtain ⟨c, hc⟩ := Option.ne_none_iff_exists'.mp (hf a List.mem_cons_self)
    have ha : a ≠ [' '] := by
      rintro rfl
      exact h (by simp [hspace])
    rw [List.filter_cons_of_pos (by simpa using ha), List.findSome?_cons_of_isSome,
      List.findSome?_cons_of_isSome] <;> simp [hc]

/-- The words of a name start with its first letter or number and end with its last one. -/
theorem ends_flatten_words (raw : List Char) :
    (words raw).flatten.head? = raw.find? Unicode.isAlphanumeric ∧
      (words raw).flatten.getLast? = (raw.filter Unicode.isAlphanumeric).getLast? := by
  have hspace : Unicode.isAlphanumeric ' ' = false := by decide
  obtain ⟨hhead, hlast⟩ := ends_spaced raw
  have hfirst : (letters (spaced raw)).flatten.head? ≠ some ' ' := by
    rw [flatten_letters, hhead]
    exact fun h => absurd (List.find?_some h) (by simp [hspace])
  have hfinal : (letters (spaced raw)).flatten.getLast? ≠ some ' ' := by
    rw [flatten_letters, hlast]
    exact fun h => absurd (List.of_mem_filter (List.mem_of_getLast? h)) (by simp [hspace])
  rw [List.head?_flatten] at hfirst
  rw [List.getLast?_flatten] at hfinal
  have hne : ∀ a ∈ letters (spaced raw), a.head? ≠ none ∧ a.getLast? ≠ none := fun a ha => by
    simp [ne_nil_of_mem_letters ha]
  constructor
  · rw [flatten_words_eq, List.head?_flatten,
      findSome?_filter_letters (fun a ha => (hne a ha).1) rfl hfirst, ← List.head?_flatten,
      flatten_letters, hhead]
  · rw [flatten_words_eq, List.getLast?_flatten, ← List.filter_reverse,
      findSome?_filter_letters (fun a ha => (hne a (List.mem_reverse.mp ha)).2) rfl hfinal,
      ← List.getLast?_flatten, flatten_letters, hlast]

/-- The words of a name start with its first letter or number. -/
theorem head?_flatten_words (raw : List Char) :
    (words raw).flatten.head? = raw.find? Unicode.isAlphanumeric :=
  (ends_flatten_words raw).1

/-- The words of a name start and end with solid characters. -/
theorem solidEnds_words (raw : List Char) : Unicode.SolidEnds (words raw).flatten := by
  obtain ⟨hhead, hlast⟩ := ends_flatten_words raw
  refine ⟨fun c hc => ?_, fun c hc => ?_⟩
  · rw [hhead] at hc
    exact Unicode.isSolid_of_isAlphanumeric (List.find?_some hc)
  · rw [hlast] at hc
    exact Unicode.isSolid_of_isAlphanumeric (List.of_mem_filter (List.mem_of_getLast? hc))

/-! ### White space around a name -/

/-- A name has the words of its trimmed form. -/
theorem words_trim (raw : String) : words (Text.trim raw).toList = words raw.toList := by
  have hfields : Text.fields isSeparator (Text.trim raw).toList =
      Text.fields isSeparator raw.toList := by
    rw [Text.toList_trim, Text.fields_trimChars]
    intro c hc
    rw [isSeparator, Unicode.not_isAlphanumeric_of_isWhiteSpace hc]
    rfl
  rw [words, words, spaced, spaced, hfields]

/-! ### Words across spaces -/

theorem wordEndsBetween_space (a : List Char) (next : Option (List Char)) :
    wordEndsBetween a [' '] next = false := by
  have hupper : isUpperLetter [' '] = false := by decide
  have hlower : isLowerLetter [' '] = false := by decide
  have hdigit : isDigit [' '] = false := by decide
  simp [wordEndsBetween, hupper, hlower, hdigit]

/-- A space behind some letters decides no more about where a word ends than the end of a text. -/
theorem wordEndsAfter_append_space (a : List Char) (front back : List (List Char)) :
    wordEndsAfter a (front ++ [' '] :: back) = wordEndsAfter a front := by
  have hlower : isLowerLetter [' '] = false := by decide
  cases front with
  | nil => exact wordEndsBetween_space a back.head?
  | cons b front =>
    rw [List.cons_append, wordEndsAfter, wordEndsAfter]
    cases front <;> simp [wordEndsBetween, hlower]

/-- The words of a text that is put together at a space are those of its parts. -/
theorem cutWords_append_space (front back : List (List Char)) :
    cutWords (front ++ [' '] :: back) = cutWords front ++ cutWords back := by
  induction front with
  | nil => rfl
  | cons a front ih =>
    obtain ⟨word, ws, hcut⟩ := List.exists_cons_of_ne_nil (cutWords_ne_nil front)
    rw [List.cons_append, cutWords, cutWords, ih, hcut, wordEndsAfter_append_space]
    split_ifs <;> rfl

/-- The letters of a text that is put together at a space are those of its parts, unless the second
part starts with a mark. -/
theorem letters_append_space (s : List Char) {t : List Char}
    (ht : ∀ c ∈ t.head?, Unicode.isMark c = false) :
    letters (s ++ ' ' :: t) = letters s ++ [' '] :: letters t := by
  have hspace : Unicode.isMark ' ' = false := by decide
  rw [letters_append_cons s hspace, letters_cons ' ' ht]

theorem intercalate_append {s t : List (List Char)} (hs : s ≠ []) (ht : t ≠ []) :
    [' '].intercalate (s ++ t) = [' '].intercalate s ++ ' ' :: [' '].intercalate t := by
  induction s with
  | nil => exact absurd rfl hs
  | cons run s ih =>
    cases s with
    | nil => simp [List.intercalate_cons_of_ne_nil ht]
    | cons next s =>
      have ih := ih (List.cons_ne_nil next s)
      rw [List.cons_append] at ih
      rw [List.cons_append, List.cons_append, List.intercalate_cons_cons, ih,
        List.intercalate_cons_cons, List.append_assoc, List.append_assoc, List.append_assoc]

/-- The words of some runs with single spaces between them. -/
def cutRuns (runs : List (List Char)) : List (List Char) :=
  (cutWords (letters ([' '].intercalate runs))).filter fun word => !word.isEmpty

/-- The words of runs are those of the first of them and those of the others, unless the others
start with a mark. -/
theorem cutRuns_append (s : List (List Char)) {t : List (List Char)}
    (ht : ∀ c ∈ ([' '].intercalate t).head?, Unicode.isMark c = false) :
    cutRuns (s ++ t) = cutRuns s ++ cutRuns t := by
  have hnone : cutRuns [] = [] := rfl
  by_cases hs : s = []
  · rw [hs, hnone, List.nil_append, List.nil_append]
  by_cases hnil : t = []
  · rw [hnil, hnone, List.append_nil, List.append_nil]
  rw [cutRuns, intercalate_append hs hnil, letters_append_space _ ht, cutWords_append_space,
    List.filter_append, cutRuns, cutRuns]

/-- The words of a name that is put together at separators are those of its parts, unless the second
part starts with a mark. -/
theorem words_append_separators {s : List Char} (hs : s ≠ []) (hall : s.all isSeparator = true)
    (a : List Char) {b : List Char}
    (hb : ∀ c ∈ b.find? Unicode.isAlphanumeric, Unicode.isMark c = false) :
    words (a ++ (s ++ b)) = words a ++ words b := by
  obtain ⟨c, rest, rfl⟩ := List.exists_cons_of_ne_nil hs
  rw [List.all_cons, Bool.and_eq_true] at hall
  have hfields : Text.fields isSeparator (a ++ (c :: rest ++ b)) =
      Text.fields isSeparator a ++ Text.fields isSeparator b := by
    rw [List.cons_append, Text.fields_append_separator a hall.1,
      Text.fields_append_of_forall (List.all_eq_true.mp hall.2)]
  rw [← (ends_spaced b).1] at hb
  have happend := cutRuns_append (Text.fields isSeparator a) hb
  rwa [← hfields] at happend

-- a mark at the start of a run stands with the space in front of it, which then separates nothing
example : words "x-y".toList = [['x'], ['y']] ∧
    words "x-\u0345y".toList = ["x \u0345y".toList] := by
  decide +kernel

/-! ### Names whose runs do not start with marks -/

/-- No run of letters and numbers of a name starts with a mark. -/
def Unmarked (raw : List Char) : Prop :=
  ∀ run ∈ Text.fields isSeparator raw, ∀ c ∈ run.head?, Unicode.isMark c = false

/-- The words of a run are not empty. -/
theorem ne_nil_of_mem_cutWords {ls : List (List Char)} (hls : ls ≠ [])
    (h : ∀ a ∈ ls, a ≠ [] ∧ a ≠ [' ']) : ∀ word ∈ cutWords ls, word ≠ [] := by
  induction ls with
  | nil => exact absurd rfl hls
  | cons a rest ih =>
    obtain ⟨⟨ha, hspace⟩, hrest⟩ := List.forall_mem_cons.mp h
    cases rest with
    | nil => simpa [cutWords, wordEndsAfter, hspace] using ha
    | cons b rest =>
      have ih := ih (List.cons_ne_nil b rest) hrest
      obtain ⟨word, ws, hcut⟩ := List.exists_cons_of_ne_nil (cutWords_ne_nil (b :: rest))
      rw [hcut] at ih
      rw [cutWords, if_neg hspace, hcut]
      dsimp only
      split_ifs
      · exact List.forall_mem_cons.mpr ⟨ha, ih⟩
      · exact List.forall_mem_cons.mpr
          ⟨List.append_ne_nil_of_left_ne_nil ha word, (List.forall_mem_cons.mp ih).2⟩

/-- A run of a name has no spaces in it. -/
theorem ne_space_of_mem_letters {raw run a : List Char} (hrun : run ∈ Text.fields isSeparator raw)
    (ha : a ∈ letters run) : a ≠ [' '] := by
  rintro rfl
  have hspace : ' ' ∈ run := by
    rw [← flatten_letters run]
    exact List.mem_flatten.mpr ⟨_, ha, List.mem_singleton_self _⟩
  exact absurd (mem_of_mem_fields hrun hspace).2 (by decide)

/-- The words of a name are those of its runs. -/
theorem Unmarked.words_eq {raw : List Char} (h : Unmarked raw) :
    words raw = (Text.fields isSeparator raw).flatMap fun run => cutWords (letters run) := by
  have hruns : ∀ run ∈ Text.fields isSeparator raw, run ≠ [] ∧
      (∀ c ∈ run.head?, Unicode.isMark c = false) ∧ ∀ a ∈ letters run, a ≠ [' '] :=
    fun run hrun => ⟨Text.ne_nil_of_mem_fields hrun, h run hrun, fun a ha =>
      ne_space_of_mem_letters hrun ha⟩
  show cutRuns (Text.fields isSeparator raw) = _
  generalize Text.fields isSeparator raw = runs at hruns
  induction runs with
  | nil => rfl
  | cons run runs ih =>
    obtain ⟨⟨hne, -, hspace⟩, hruns⟩ := List.forall_mem_cons.mp hruns
    have hfirst : cutRuns [run] = cutWords (letters run) := by
      rw [cutRuns, List.intercalate_singleton, List.filter_eq_self]
      have hall := ne_nil_of_mem_cutWords (mt letters_eq_nil.mp hne) fun a ha =>
        ⟨ne_nil_of_mem_letters ha, hspace a ha⟩
      exact fun word hword => by simpa using hall word hword
    have hbehind : ∀ c ∈ ([' '].intercalate runs).head?, Unicode.isMark c = false := by
      rw [(ends_intercalate fun run hrun => (hruns run hrun).1).1]
      cases runs with
      | nil => simp
      | cons next runs =>
        obtain ⟨⟨hnext, hmark, -⟩, -⟩ := List.forall_mem_cons.mp hruns
        rwa [List.flatten_cons, List.head?_append_of_ne_nil _ hnext]
    rw [← List.singleton_append, cutRuns_append [run] hbehind, hfirst, ih hruns,
      List.singleton_append, List.flatMap_cons]

/-- The words of a name together are its letters and numbers. -/
theorem Unmarked.flatten_words {raw : List Char} (h : Unmarked raw) :
    (words raw).flatten = raw.filter Unicode.isAlphanumeric := by
  have hrun : ∀ run ∈ Text.fields isSeparator raw, (cutWords (letters run)).flatten = run := by
    intro run hrun
    have hletters : (letters run).filter (fun a => a != [' ']) = letters run :=
      List.filter_eq_self.mpr fun a ha => by simpa using ne_space_of_mem_letters hrun ha
    rw [flatten_cutWords, hletters, flatten_letters]
  rw [h.words_eq, List.flatMap_def, List.flatten_flatten, List.map_map, Function.comp_def,
    List.map_congr_left hrun, List.map_id', Text.flatten_fields]
  simp [isSeparator]

end Scaffold.Naming

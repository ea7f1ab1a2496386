import Scaffold.Proofs.Text.Basic
import Scaffold.Proofs.Toml.Quoted

/-!
# Documents that are read back

A document that is written as sections is read as the table that its headers and assignments give,
whatever the texts in it are. Nothing is assumed of the values but that integers have at most 128
bits; the keys are those that need no quotes.

A document is read from its start, and written from its end: the claim about a text is that it is
read as some statements with as many steps as it has characters, and every line in front of a text
adds its statement.

## Main definitions

* `Scalar.toValue`: what a written value is read as.
* `Section.IsPlain`, `Section.statements`: the sections that are written as they should be, and what
  they are read as.
* `ReadsAs`: a text is read as some statements.

## Main results

* `readValue_write`: a value is read back at the end of a line.
* `readKeys_pathText`: a path is read back.
* `parse_writeSections`: a document is read back.
-/

namespace Scaffold.Toml

open Text (digitValue)

/-! ### Numbers -/

theorem groupedDigits?_of_isDigit {s : List Char} (hne : s ≠ [])
    (h : ∀ c ∈ s, c.isDigit = true) : groupedDigits? 10 s = some (s.map digitValue) := by
  induction s with
  | nil => exact absurd rfl hne
  | cons c s ih =>
    rw [List.forall_mem_cons] at h
    have hc := Text.digitIn?_of_isDigit h.1
    cases s with
    | nil => rw [groupedDigits?, hc]; rfl
    | cons b s =>
      have hb : b ≠ '_' := by
        rintro rfl
        exact absurd (h.2 _ List.mem_cons_self) (by decide)
      rw [groupedDigits?, hc, ih (by simp) h.2]
      · rfl
      all_goals simp_all

theorem wholeDigits?_toDigits (n : Nat) :
    wholeDigits? (Nat.toDigits 10 n) = some ((Nat.toDigits 10 n).map digitValue) := by
  rw [wholeDigits?, groupedDigits?_of_isDigit Nat.toDigits_ne_nil
    fun c hc => Text.isDigit_of_mem_toDigits hc, Option.filter_some]
  have hne := Text.map_digitValue_toDigits_ne n
  cases hdigits : (Nat.toDigits 10 n).map digitValue with
  | nil => exact absurd (List.map_eq_nil_iff.mp hdigits) Nat.toDigits_ne_nil
  | cons d ds =>
    cases ds with
    | nil => simp
    | cons d' ds =>
      have hd : d ≠ 0 := by
        rintro rfl
        exact hne d' ds hdigits
      simp [hd]

theorem splitSign_toDigits (n : Nat) :
    splitSign (Nat.toDigits 10 n) = (false, Nat.toDigits 10 n) := by
  unfold splitSign
  split
  · next rest heq =>
    have hmem : '-' ∈ Nat.toDigits 10 n := heq ▸ List.mem_cons_self
    exact absurd (Text.isDigit_of_mem_toDigits hmem) (by decide)
  · next rest heq =>
    have hmem : '+' ∈ Nat.toDigits 10 n := heq ▸ List.mem_cons_self
    exact absurd (Text.isDigit_of_mem_toDigits hmem) (by decide)
  · rfl

theorem integer?_toDigits {n : Nat} (h : n < Nat.pow 2 128) :
    integer? (Nat.toDigits 10 n) = some (.integer n) := by
  have hmark : ∀ {c : Char} {rest : List Char}, Nat.toDigits 10 n = '0' :: c :: rest →
      c.isDigit = true := fun heq =>
    Text.isDigit_of_mem_toDigits (heq ▸ List.mem_cons_of_mem _ List.mem_cons_self)
  unfold integer?
  split
  · next heq => exact absurd (hmark heq) (by decide)
  · next heq => exact absurd (hmark heq) (by decide)
  · next heq => exact absurd (hmark heq) (by decide)
  · rw [splitSign_toDigits]
    dsimp only
    rw [wholeDigits?_toDigits, Option.map_some, Text.natOfDigits_toDigits, integerValue, withSign]
    have hfits : -(Int.pow 2 127) ≤ (n : Int) ∧ (n : Int) < Int.pow 2 128 := by
      refine ⟨?_, ?_⟩
      · have : (0 : Int) ≤ Int.pow 2 127 := by decide
        omega
      · have : Int.pow 2 128 = ((Nat.pow 2 128 : Nat) : Int) := by decide
        omega
    simp only [if_neg Bool.false_ne_true]
    rw [if_pos hfits]

/-! ### Values -/

/-- What a written value is read as. -/
def Scalar.toValue : Scalar → Value
  | .text s => .string s
  | .integer n => .integer n
  | .boolean b => .boolean b

/-- Whether a value is one of the format, which has integers of up to 128 bits. -/
def Scalar.Fits : Scalar → Prop
  | .integer n => n < Nat.pow 2 128
  | _ => True

@[simp] theorem Scalar.fits_text (s : String) : (text s).Fits := trivial

@[simp] theorem Scalar.fits_integer (n : Nat) : (integer n).Fits ↔ n < Nat.pow 2 128 := Iff.rfl

@[simp] theorem Scalar.fits_boolean (b : Bool) : (boolean b).Fits := trivial

/-- A word at the end of a line is read to its end. -/
theorem scalarWord_append {word : List Char} (h : ∀ c ∈ word, isScalarChar c = true)
    (rest : List Char) : scalarWord (word ++ '\n' :: rest) = (word, '\n' :: rest) := by
  have hend : isScalarChar '\n' = false := rfl
  have htake : (word ++ '\n' :: rest).takeWhile isScalarChar = word := by
    rw [List.takeWhile_append_of_pos h, List.takeWhile_cons, hend]
    exact List.append_nil word
  have hdrop : (word ++ '\n' :: rest).dropWhile isScalarChar = '\n' :: rest := by
    rw [List.dropWhile_append_of_pos h, List.dropWhile_cons, hend]
    rfl
  rw [scalarWord, htake, hdrop]
  rfl

theorem readValue_word {word : List Char} (hne : word ≠ [])
    (hchars : ∀ c ∈ word, isScalarChar c = true) {v : Value} (hvalue : scalar? word = some v)
    (steps depth : Nat) (rest : List Char) :
    readValue (steps + 1) depth (word ++ '\n' :: rest) = some (v, '\n' :: rest) := by
  obtain ⟨c, cs, rfl⟩ := List.exists_cons_of_ne_nil hne
  have hword := scalarWord_append hchars rest
  have hc := hchars c List.mem_cons_self
  have hquote : ¬(decide (c = '"') || decide (c = '\'')) = true := by
    rw [Bool.or_eq_true, decide_eq_true_eq, decide_eq_true_eq]
    rintro (rfl | rfl) <;> cases hc
  rw [List.cons_append] at hword ⊢
  rw [readValue, if_neg hquote, hword]
  · dsimp only
    rw [hvalue]
    rfl
  · rintro rfl; cases hc
  · rintro rfl; cases hc

theorem exists_head_writeIn (form : TextForm) (s : List Char) :
    ∃ q w, writeIn form s = q :: w ∧ (q = '"' ∨ q = '\'') := by
  cases form with
  | escaped => exact ⟨_, _, rfl, .inl rfl⟩
  | literal => exact ⟨_, _, rfl, .inr rfl⟩
  | escapedLong => exact ⟨_, _, rfl, .inl rfl⟩
  | literalLong => exact ⟨_, _, rfl, .inr rfl⟩

theorem readValue_text (s : List Char) (steps depth : Nat) (rest : List Char) :
    readValue (steps + 1) depth (writeIn (formOf s) s ++ '\n' :: rest) =
      some (.string (String.ofList s), '\n' :: rest) := by
  have hread := readText_writeIn s rest
  obtain ⟨q, w, hw, hq⟩ := exists_head_writeIn (formOf s) s
  rw [hw, List.cons_append] at hread ⊢
  rw [readValue, if_pos (by simpa using hq), hread]
  · rfl
  all_goals rcases hq with rfl | rfl <;> decide

theorem isScalarChar_of_isDigit {c : Char} (h : c.isDigit = true) : isScalarChar c = true := by
  simp [isScalarChar, Char.isAlphanum, h]

theorem scalar?_toDigits {n : Nat} (h : n < Nat.pow 2 128) :
    scalar? (Nat.toDigits 10 n) = some (.integer n) := by
  have hword : ∀ {c : Char} {cs : List Char}, c.isDigit = false →
      Nat.toDigits 10 n ≠ c :: cs := by
    rintro c cs hc heq
    have hdigit : c.isDigit = true := Text.isDigit_of_mem_toDigits (heq ▸ List.mem_cons_self)
    rw [hc] at hdigit
    cases hdigit
  rw [scalar?, if_neg (hword (by decide)), if_neg (hword (by decide)), integer?_toDigits h]
  rfl

/-- A value is read back at the end of a line. -/
theorem readValue_write {v : Scalar} (h : v.Fits) (steps depth : Nat) (rest : List Char) :
    readValue (steps + 1) depth (v.write.toList ++ '\n' :: rest) =
      some (v.toValue, '\n' :: rest) := by
  cases v with
  | text s =>
    have hread := readValue_text s.toList steps depth rest
    rw [String.ofList_toList] at hread
    rw [Scalar.write, writeText, String.toList_ofList]
    exact hread
  | integer n =>
    rw [Scalar.write, Nat.toList_repr]
    exact readValue_word Nat.toDigits_ne_nil
      (fun c hc => isScalarChar_of_isDigit (Text.isDigit_of_mem_toDigits hc))
      (scalar?_toDigits h) steps depth rest
  | boolean b =>
    cases b <;> exact readValue_word (by decide) (List.all_eq_true.mp rfl) rfl steps depth rest

/-! ### Paths -/

/-- Whether a key can be written as it is. -/
def IsPlainKey (key : String) : Prop :=
  key ≠ "" ∧ key.toList.all isKeyChar = true

instance (key : String) : Decidable (IsPlainKey key) :=
  inferInstanceAs (Decidable (_ ∧ _))

theorem skipSpaces_cons {c : Char} (h : isSpace c = false) (s : List Char) :
    skipSpaces (c :: s) = c :: s := by
  simp [skipSpaces, h]

/-- Characters of keys are no white space, and no signs that have a meaning in a line. -/
theorem isKeyChar_ne {c : Char} (h : isKeyChar c = true) :
    c ∉ [' ', '\t', '\n', '\r', '#', '[', '"', '\'', '.'] := by
  intro hmem
  simp only [List.mem_cons, List.not_mem_nil, or_false] at hmem
  rcases hmem with rfl | rfl | rfl | rfl | rfl | rfl | rfl | rfl | rfl <;> cases h

theorem IsPlainKey.forall_mem {key : String} (h : IsPlainKey key) :
    ∀ c ∈ key.toList, isKeyChar c = true :=
  List.all_eq_true.mp h.2

theorem IsPlainKey.exists_head {key : String} (h : IsPlainKey key) :
    ∃ c cs, key.toList = c :: cs ∧ isKeyChar c = true := by
  obtain ⟨c, cs, hcs⟩ := List.exists_cons_of_ne_nil (mt String.toList_eq_nil_iff.mp h.1)
  exact ⟨c, cs, hcs, h.forall_mem c (hcs ▸ List.mem_cons_self)⟩

/-- A key is read to its end. -/
theorem IsPlainKey.readKey_append {key : String} (h : IsPlainKey key) {rest : List Char}
    (hrest : ∀ c ∈ rest.head?, isKeyChar c = false) :
    readKey (skipSpaces (key.toList ++ rest)) = some (key, rest) := by
  have htake : (key.toList ++ rest).takeWhile isKeyChar = key.toList := by
    rw [List.takeWhile_append_of_pos h.forall_mem]
    cases rest with
    | nil => simp
    | cons c rest => simp [hrest c rfl]
  have hdrop : (key.toList ++ rest).dropWhile isKeyChar = rest := by
    rw [List.dropWhile_append_of_pos h.forall_mem]
    cases rest with
    | nil => rfl
    | cons c rest => simp [hrest c rfl]
  obtain ⟨c, cs, hcs, hc⟩ := h.exists_head
  have hne := isKeyChar_ne hc
  simp only [List.mem_cons, List.not_mem_nil, or_false, not_or] at hne
  have hspace : isSpace c = false := by simp [isSpace, hne]
  have hkey : String.ofList (c :: cs) = key := by rw [← hcs, String.ofList_toList]
  rw [hcs, List.cons_append] at htake hdrop ⊢
  rw [skipSpaces_cons hspace, readKey, htake, hdrop]
  · dsimp only
    rw [hkey]
  · simp [hne]
  · simp [hne]

/-- The text of a path. -/
def pathText (path : List String) : List Char :=
  (".".intercalate path).toList

theorem pathText_singleton (key : String) : pathText [key] = key.toList := by
  simp [pathText]

theorem pathText_cons_cons (key key' : String) (path : List String) :
    pathText (key :: key' :: path) = key.toList ++ '.' :: pathText (key' :: path) := by
  simp [pathText, String.toList_intercalate]

/-- A path is read in front of a character that no key has. The induction is on the path. -/
theorem readKeys_pathText {path : List String} (hne : path ≠ [])
    (hkeys : ∀ key ∈ path, IsPlainKey key) {rest : List Char}
    (hrest : ∀ c ∈ rest.head?, isKeyChar c = false) (hdot : ∀ r, skipSpaces rest ≠ '.' :: r)
    {most : Nat} (hmost : path.length ≤ most) :
    readKeys most (pathText path ++ rest) = some (path, skipSpaces rest) := by
  induction path generalizing most with
  | nil => exact absurd rfl hne
  | cons key path ih =>
    rw [List.forall_mem_cons] at hkeys
    rw [List.length_cons] at hmost
    obtain ⟨most, rfl⟩ : ∃ k, most = k + 1 := ⟨most - 1, by omega⟩
    cases path with
    | nil =>
      rw [pathText_singleton, readKeys, hkeys.1.readKey_append hrest]
      dsimp only [Option.bind_eq_bind, Option.bind_some]
      split
      · next heq => exact absurd heq (hdot _)
      · rfl
    | cons key' path =>
      rw [pathText_cons_cons, List.append_assoc, List.cons_append, readKeys,
        hkeys.1.readKey_append (by simp [isKeyChar])]
      have hread := ih (by simp) hkeys.2 (Nat.le_of_succ_le_succ hmost)
      simp only [Option.bind_eq_bind, Option.bind_some, skipSpaces_cons (c := '.') rfl, hread]
      rfl

/-! ### Lines -/

theorem exists_head_pathText {path : List String} (hne : path ≠ [])
    (hkeys : ∀ key ∈ path, IsPlainKey key) :
    ∃ c cs, pathText path = c :: cs ∧ isKeyChar c = true := by
  obtain ⟨key, path, rfl⟩ := List.exists_cons_of_ne_nil hne
  obtain ⟨c, cs, hcs, hc⟩ := (hkeys key List.mem_cons_self).exists_head
  cases path with
  | nil => exact ⟨c, cs, by rw [pathText_singleton, hcs], hc⟩
  | cons key' path =>
    exact ⟨c, cs ++ '.' :: pathText (key' :: path), by
      rw [pathText_cons_cons, hcs, List.cons_append], hc⟩

theorem readStatement_header {path : List String} (hne : path ≠ [])
    (hkeys : ∀ key ∈ path, IsPlainKey key) (hlength : path.length ≤ maxDepth) (steps : Nat)
    (rest : List Char) :
    readStatement steps ('[' :: (pathText path ++ ']' :: rest)) = some (.header path, rest) := by
  have hread : readPath (pathText path ++ ']' :: rest) = some (path, ']' :: rest) :=
    readKeys_pathText hne hkeys (by simp [isKeyChar]) (by simp [skipSpaces, isSpace]) hlength
  obtain ⟨c, cs, hcs, hc⟩ := exists_head_pathText hne hkeys
  rw [hcs, List.cons_append] at hread ⊢
  rw [readStatement, hread]
  · rfl
  · rintro r heq
    obtain ⟨rfl, -⟩ := List.cons.inj heq
    cases hc

theorem skipSpaces_write (v : Scalar) (rest : List Char) :
    skipSpaces (v.write.toList ++ rest) = v.write.toList ++ rest := by
  have hhead : ∃ c cs, v.write.toList = c :: cs ∧ isSpace c = false := by
    cases v with
    | text s =>
      obtain ⟨q, w, hw, hq⟩ := exists_head_writeIn (formOf s.toList) s.toList
      refine ⟨q, w, by rw [Scalar.write, writeText, String.toList_ofList, hw], ?_⟩
      rcases hq with rfl | rfl <;> decide
    | integer n =>
      obtain ⟨c, cs, hcs⟩ := List.exists_cons_of_ne_nil (Nat.toDigits_ne_nil (n := n) (b := 10))
      have hdigit : c.isDigit = true := Text.isDigit_of_mem_toDigits (hcs ▸ List.mem_cons_self)
      refine ⟨c, cs, by rw [Scalar.write, Nat.toList_repr, hcs], ?_⟩
      simp only [isSpace, Bool.or_eq_false_iff, beq_eq_false_iff_ne]
      constructor <;> (rintro rfl; cases hdigit)
    | boolean b => cases b <;> exact ⟨_, _, rfl, rfl⟩
  obtain ⟨c, cs, hcs, hc⟩ := hhead
  rw [hcs, List.cons_append, skipSpaces_cons hc]

theorem readStatement_assignment {key : String} (hkey : IsPlainKey key) {v : Scalar}
    (hv : v.Fits) (steps : Nat) (rest : List Char) :
    readStatement (steps + 1)
        (key.toList ++ ' ' :: '=' :: ' ' :: (v.write.toList ++ '\n' :: rest)) =
      some (.assignment [key] v.toValue, '\n' :: rest) := by
  have hread (w : List Char) :
      readPath (key.toList ++ ' ' :: '=' :: w) = some ([key], '=' :: w) := by
    rw [← pathText_singleton]
    exact readKeys_pathText (by simp) (by simpa using hkey) (by simp [isKeyChar])
      (by simp [skipSpaces, isSpace]) (by simp [maxDepth])
  have hspaces : skipSpaces (' ' :: (v.write.toList ++ '\n' :: rest)) =
      v.write.toList ++ '\n' :: rest := skipSpaces_write v _
  have hvalue := readValue_write hv steps maxDepth rest
  obtain ⟨c, cs, hcs, hc⟩ := hkey.exists_head
  have hbracket : c ≠ '[' := by rintro rfl; cases hc
  specialize hread (' ' :: (v.write.toList ++ '\n' :: rest))
  rw [hcs, List.cons_append] at hread ⊢
  rw [readStatement, hread]
  · simp only [Option.bind_eq_bind, Option.bind_some, hspaces, hvalue]
    rfl
  · simp [hbracket]
  · simp [hbracket]

/-! ### Documents -/

/-- What a section is read as. -/
def Section.statements (s : Section) : List Statement :=
  .header s.path :: s.entries.map fun (key, v) => .assignment [key] v.toValue

/-- Whether a section is written without quotes around its keys, and within the bounds of the
format. -/
structure Section.IsPlain (s : Section) : Prop where
  path_ne_nil : s.path ≠ []
  path_length : s.path.length ≤ maxDepth
  path_plain : ∀ key ∈ s.path, IsPlainKey key
  entries_plain : ∀ e ∈ s.entries, IsPlainKey e.1 ∧ e.2.Fits

/-- Whether a text is read as some statements once the white space in front of them is skipped, with
as many steps as it has characters left. -/
def ReadsAs (s : List Char) (statements : List Statement) : Prop :=
  ∃ rest, skipLines false s = some rest ∧
    ∀ steps, rest.length < steps → readStatements steps rest = some statements

theorem readsAs_nil : ReadsAs [] [] := by
  refine ⟨[], by rw [skipLines], fun steps hsteps => ?_⟩
  obtain ⟨steps, rfl⟩ : ∃ k, steps = k + 1 := ⟨steps - 1, by omega⟩
  rw [readStatements]
  simp

theorem skipLines_line (s : List Char) : skipLines false ('\n' :: s) = skipLines false s := by
  rw [skipLines]

theorem length_skipLines_le {inComment : Bool} {s rest : List Char}
    (h : skipLines inComment s = some rest) : rest.length ≤ s.length := by
  fun_induction skipLines inComment s with
  | case1 => simp_all
  | case2 _ _ ih => exact Nat.le_succ_of_le (ih h)
  | case3 _ _ ih => exact Nat.le_succ_of_le (Nat.le_succ_of_le (ih h))
  | case4 _ _ _ _ _ ih => exact Nat.le_succ_of_le (ih h)
  | case5 _ _ _ _ ih => exact Nat.le_succ_of_le (ih h)
  | case6 => simp_all
  | case7 => simp_all
  | case8 _ _ _ _ _ ih => exact Nat.le_succ_of_le (ih h)

namespace ReadsAs

variable {s : List Char} {statements : List Statement}

theorem blank_line (h : ReadsAs s statements) : ReadsAs ('\n' :: s) statements := by
  obtain ⟨rest, hskip, hread⟩ := h
  exact ⟨rest, by rw [skipLines_line, hskip], hread⟩

/-- A line with a statement in front of a text. -/
theorem statement_line (h : ReadsAs s statements) {c : Char} {line : List Char} {x : Statement}
    (hc : c ∉ [' ', '\t', '\n', '\r', '#'])
    (hline : ∀ steps, readStatement (steps + 1) (c :: (line ++ '\n' :: s)) = some (x, '\n' :: s)) :
    ReadsAs (c :: (line ++ '\n' :: s)) (x :: statements) := by
  obtain ⟨rest, hskip, hread⟩ := h
  simp only [List.mem_cons, List.not_mem_nil, or_false, not_or] at hc
  obtain ⟨hspace, htab, hfeed, hreturn, hmark⟩ := hc
  refine ⟨c :: (line ++ '\n' :: s), ?_, fun steps hsteps => ?_⟩
  · rw [skipLines, if_neg (by simp [isSpace, hspace, htab]), if_neg hmark]
    all_goals simp_all
  · have hle := length_skipLines_le hskip
    simp only [List.length_cons, List.length_append] at hsteps
    obtain ⟨steps, rfl⟩ : ∃ k, steps = k + 2 := ⟨steps - 2, by omega⟩
    have hend : endLine ('\n' :: s) = some rest := by
      rw [← hskip, ← skipLines_line]
      rfl
    have hrest := hread (steps + 1) (by omega)
    rw [readStatements, hline]
    · simp only [Option.bind_eq_bind, Option.bind_some, hend, hrest]
      rfl
    · simp

theorem header_line (h : ReadsAs s statements) {path : List String} (hne : path ≠ [])
    (hkeys : ∀ key ∈ path, IsPlainKey key) (hlength : path.length ≤ maxDepth) :
    ReadsAs ('[' :: (pathText path ++ ']' :: '\n' :: s)) (.header path :: statements) := by
  have hline : '[' :: (pathText path ++ ']' :: '\n' :: s) =
      '[' :: ((pathText path ++ [']']) ++ '\n' :: s) := by simp
  rw [hline]
  refine h.statement_line (by decide) fun steps => ?_
  rw [← hline]
  exact readStatement_header hne hkeys hlength _ _

theorem assignment_line (h : ReadsAs s statements) {key : String} (hkey : IsPlainKey key)
    {v : Scalar} (hv : v.Fits) :
    ReadsAs (key.toList ++ ' ' :: '=' :: ' ' :: (v.write.toList ++ '\n' :: s))
      (.assignment [key] v.toValue :: statements) := by
  obtain ⟨c, cs, hcs, hc⟩ := hkey.exists_head
  have hline : key.toList ++ ' ' :: '=' :: ' ' :: (v.write.toList ++ '\n' :: s) =
      c :: ((cs ++ ' ' :: '=' :: ' ' :: v.write.toList) ++ '\n' :: s) := by simp [hcs]
  have hne := isKeyChar_ne hc
  simp only [List.mem_cons, List.not_mem_nil, or_false, not_or] at hne
  rw [hline]
  refine h.statement_line (by simp [hne]) fun steps => ?_
  rw [← hline]
  exact readStatement_assignment hkey hv steps s

/-- The induction is on the assignments of a section. -/
theorem entries_lines (h : ReadsAs s statements) {entries : List (String × Scalar)}
    (hentries : ∀ e ∈ entries, IsPlainKey e.1 ∧ e.2.Fits) :
    ReadsAs
      ((String.join (entries.map fun (key, v) => key ++ " = " ++ v.write ++ "\n")).toList ++ s)
      ((entries.map fun (key, v) => .assignment [key] v.toValue) ++ statements) := by
  induction entries with
  | nil => simpa using h
  | cons e entries ih =>
    rw [List.forall_mem_cons] at hentries
    have hread := (ih hentries.2).assignment_line hentries.1.1 hentries.1.2
    simpa using hread

/-- A section in front of a text. -/
theorem section_lines (h : ReadsAs s statements) {sec : Section} (hsec : sec.IsPlain) :
    ReadsAs (sec.write.toList ++ s) (sec.statements ++ statements) := by
  have hread := (h.entries_lines hsec.entries_plain).header_line hsec.path_ne_nil hsec.path_plain
    hsec.path_length
  simpa [Section.write, Section.statements, pathText] using hread

end ReadsAs

theorem readsAs_writeSections {sections : List Section} (h : ∀ s ∈ sections, s.IsPlain) :
    ReadsAs (writeSections sections).toList (sections.flatMap Section.statements) := by
  induction sections with
  | nil => exact readsAs_nil
  | cons s sections ih =>
    rw [List.forall_mem_cons] at h
    cases sections with
    | nil =>
      have hread := readsAs_nil.section_lines h.1
      simpa [writeSections] using hread
    | cons s' sections =>
      have hread := (ih h.2).blank_line.section_lines h.1
      simpa [writeSections, String.toList_intercalate] using hread

/-- A document starts with the bracket of its first header, if there is one. -/
theorem dropByteOrderMark_writeSections (sections : List Section) :
    dropByteOrderMark (writeSections sections).toList = (writeSections sections).toList := by
  cases sections with
  | nil => rfl
  | cons s sections =>
    have hhead : ∃ cs, (writeSections (s :: sections)).toList = '[' :: cs := by
      cases sections <;>
        exact ⟨_, by simp [writeSections, Section.write, String.toList_intercalate]; rfl⟩
    obtain ⟨cs, hcs⟩ := hhead
    rw [hcs]
    rfl

/-- A document of sections with plain keys is read as the table of their statements. -/
theorem parse_writeSections {sections : List Section} (h : ∀ s ∈ sections, s.IsPlain) :
    parse (writeSections sections) = tableOf (sections.flatMap Section.statements) := by
  obtain ⟨rest, hskip, hread⟩ := readsAs_writeSections h
  rw [parse, dropByteOrderMark_writeSections, hskip]
  simp only [Option.bind_eq_bind, Option.bind_some, hread (2 * rest.length + 2) (by omega)]

end Scaffold.Toml

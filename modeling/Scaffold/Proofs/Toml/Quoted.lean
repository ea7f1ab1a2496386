import Mathlib.Tactic.Common
import Scaffold.Toml.Reader
import Scaffold.Toml.Writer

/-!
# Texts that are read back

A text is written in one of four forms, whichever its characters allow, and is read back from each
of them: quotes, backslashes, line feeds and control characters included. The forms without escapes
are read back because of what the choice among the forms knows of the text.

Where quotes end a text of several lines, the reader takes up to two of them as part of it. This is
why the lemmas on such texts look at the quotes in front of the closing ones.

## Main definitions

* `Escape`: how a character may be written between double quotes.

## Main results

* `readEscaped_flatMap`, `readLiteral_append`: texts of one line.
* `readEscapedLines_escapeLines`, `readLiteralLines_append`: texts of several lines.
* `readText_writeIn`: a text in the form that is chosen for it.
-/

namespace Scaffold.Toml

/-! ### Escapes -/

/-- How a character other than a quote may be written between double quotes. -/
inductive Escape (c : Char) : List Char → Prop
  | plain (hquote : c ≠ '"') (hbackslash : c ≠ '\\') (hcontrol : isControl c = false) :
      Escape c [c]
  | short {mark : Char} (h : simpleEscape? mark = some c) : Escape c ['\\', mark]
  | code {a b : Char} (h : charOfHex? ['0', '0', a, b] = some c) :
      Escape c ['\\', 'u', '0', '0', a, b]

theorem charOfHex?_twoHexDigits {n : Nat} (h : n < 128) :
    charOfHex? ('0' :: '0' :: twoHexDigits n) = some (Char.ofNat n) := by
  have hall : ∀ n < 128, charOfHex? ('0' :: '0' :: twoHexDigits n) = some (Char.ofNat n) := by
    decide +kernel
  exact hall n h

theorem toNat_lt_of_isControl {c : Char} (h : isControl c = true) : c.toNat < 128 := by
  simp only [isControl, Bool.or_eq_true, Bool.and_eq_true, decide_eq_true_eq, beq_iff_eq] at h
  rcases h with ⟨hlt, -⟩ | rfl
  · omega
  · decide

/-- Every character but the quote and the line feed is written as it may be. -/
theorem escape_escapeChar {c : Char} (hquote : c ≠ '"') (hline : c ≠ '\n') :
    Escape c (escapeChar c) := by
  unfold escapeChar
  split_ifs with hbackslash hb ht hf hr hcontrol
  · subst hbackslash; exact .short rfl
  · subst hb; exact .short rfl
  · subst ht; exact .short rfl
  · subst hf; exact .short rfl
  · subst hr; exact .short rfl
  · refine .code ?_
    have hhex := charOfHex?_twoHexDigits (toNat_lt_of_isControl hcontrol)
    rwa [Char.ofNat_toNat] at hhex
  · exact .plain hquote hbackslash (Bool.not_eq_true _ ▸ hcontrol)

theorem escape_escapeInLine (c : Char) : Escape c (escapeInLine c) := by
  unfold escapeInLine
  split_ifs with hquote hline
  · subst hquote; exact .short rfl
  · subst hline; exact .short rfl
  · exact escape_escapeChar hquote hline

/-- The marks of short escapes are no marks of codes, and no white space. -/
theorem mark_ne_of_simpleEscape? {mark c : Char} (h : simpleEscape? mark = some c) :
    mark ∉ ['x', 'u', 'U', ' ', '\t', '\n', '\r'] := by
  intro hmem
  simp only [List.mem_cons, List.not_mem_nil, or_false] at hmem
  rcases hmem with rfl | rfl | rfl | rfl | rfl | rfl | rfl <;> cases h

theorem startsLine_cons {c : Char} (hline : c ≠ '\n') (hreturn : c ≠ '\r') (rest : List Char) :
    startsLine (c :: rest) = false := by
  simp [startsLine, hline, hreturn]

namespace Escape

variable {c : Char} {w : List Char}

/-- What is written for a character starts neither with a quote nor with a line break. -/
theorem exists_head (h : Escape c w) :
    ∃ a w', w = a :: w' ∧ a ≠ '"' ∧ a ≠ '\n' ∧ a ≠ '\r' := by
  cases h with
  | plain hquote _ hcontrol =>
    refine ⟨c, [], rfl, hquote, ?_, ?_⟩ <;> (rintro rfl; cases hcontrol)
  | short _ => exact ⟨_, _, rfl, by decide, by decide, by decide⟩
  | code _ => exact ⟨_, _, rfl, by decide, by decide, by decide⟩

theorem readEscaped_append (h : Escape c w) (rest : List Char) :
    readEscaped (w ++ rest) = pushChar? (some c) (readEscaped rest) := by
  cases h with
  | plain hquote hbackslash hcontrol =>
    rw [List.singleton_append, readEscaped, if_neg (by simp [hcontrol])]
    all_goals simp_all
  | @short mark hmark =>
    have hne := mark_ne_of_simpleEscape? hmark
    simp only [List.mem_cons, List.not_mem_nil, or_false, not_or] at hne
    simp only [List.cons_append, List.nil_append]
    rw [readEscaped, hmark]
    all_goals simp_all
  | code hcode =>
    simp only [List.cons_append, List.nil_append]
    rw [readEscaped, hcode]

theorem readEscapedLines_append (h : Escape c w) (rest : List Char) :
    readEscapedLines false (w ++ rest) = pushChar? (some c) (readEscapedLines false rest) := by
  cases h with
  | plain hquote hbackslash hcontrol =>
    have hreturn : c ≠ '\r' := by rintro rfl; cases hcontrol
    rw [List.singleton_append, readEscapedLines, if_neg (by simp), if_neg (by simp [hcontrol])]
    all_goals simp_all
  | @short mark hmark =>
    have hne := mark_ne_of_simpleEscape? hmark
    simp only [List.mem_cons, List.not_mem_nil, or_false, not_or] at hne
    obtain ⟨hx, hu, hU, hspace, htab, hline, hreturn⟩ := hne
    have hdrop : (mark :: rest).dropWhile isSpace = mark :: rest := by
      simp [isSpace, hspace, htab]
    simp only [List.cons_append, List.nil_append]
    rw [readEscapedLines, hdrop, startsLine_cons hline hreturn, hmark]
    all_goals simp_all
  | code hcode =>
    simp only [List.cons_append, List.nil_append]
    rw [readEscapedLines, hcode]

end Escape

/-! ### Texts of one line -/

theorem readEscaped_flatMap (s rest : List Char) :
    readEscaped (s.flatMap escapeInLine ++ '"' :: rest) = some (s, rest) := by
  induction s with
  | nil => simp [readEscaped]
  | cons c s ih =>
    rw [List.flatMap_cons, List.append_assoc, (escape_escapeInLine c).readEscaped_append, ih]
    rfl

theorem readLiteral_append {s : List Char} (hcontrol : ∀ c ∈ s, isControl c = false)
    (hquote : '\'' ∉ s) (rest : List Char) : readLiteral (s ++ '\'' :: rest) = some (s, rest) := by
  induction s with
  | nil => simp [readLiteral]
  | cons c s ih =>
    rw [List.forall_mem_cons] at hcontrol
    rw [List.mem_cons, not_or] at hquote
    rw [List.cons_append, readLiteral, if_neg (by simp [hcontrol.1]), ih hcontrol.2 hquote.2]
    · rfl
    · exact fun h => hquote.1 h.symm

/-! ### Texts of several lines -/

/-- A quote in front of less than two more belongs to the text. -/
theorem readEscapedLines_quote {rest : List Char} (h : ∀ r, rest ≠ '"' :: '"' :: r) :
    readEscapedLines false ('"' :: rest) =
      pushChar? (some '"') (readEscapedLines false rest) := by
  rw [readEscapedLines]
  all_goals simp_all [isControl]

/-- What is written behind some quotes starts with a quote only if that belongs to the text and is
not the third in a row. -/
theorem exists_head_escapeLines {c : Char} {quotes : Nat} (h : c ≠ '"' ∨ quotes = 2)
    (s : List Char) : ∃ a w, escapeLines quotes (c :: s) = a :: w ∧ a ≠ '"' := by
  rw [escapeLines]
  split_ifs with hquote htwo hline
  · exact ⟨_, _, rfl, by decide⟩
  · exact absurd h (by simp [hquote, htwo])
  · exact ⟨_, _, rfl, by decide⟩
  · obtain ⟨a, w, hw, ha, -⟩ := (escape_escapeChar hquote hline).exists_head
    exact ⟨a, w ++ escapeLines 0 s, by rw [hw, List.cons_append], ha⟩

/-- Where two quotes follow a written text with quotes in front of it, it is one quote at most. -/
theorem eq_of_two_quotes {s : List Char} {quotes : Nat} (hquotes : 1 ≤ quotes ∧ quotes ≤ 2)
    {rest r : List Char}
    (h : escapeLines quotes s ++ '"' :: '"' :: '"' :: rest = '"' :: '"' :: r) :
    s = [] ∨ s = ['"'] ∧ quotes = 1 := by
  match s with
  | [] => exact .inl rfl
  | c :: s =>
    by_cases hc : c ≠ '"' ∨ quotes = 2
    · obtain ⟨a, w, hw, ha⟩ := exists_head_escapeLines hc s
      rw [hw, List.cons_append] at h
      exact absurd (List.cons.inj h).1 ha
    · obtain ⟨rfl, hone⟩ : c = '"' ∧ quotes = 1 := by
        rw [not_or, not_not] at hc
        exact ⟨hc.1, by omega⟩
      subst hone
      match s with
      | [] => exact .inr ⟨rfl, rfl⟩
      | c :: s =>
        obtain ⟨a, w, hw, ha⟩ := exists_head_escapeLines (c := c) (.inr rfl) s
        have hfirst : escapeLines 1 ('"' :: c :: s) = '"' :: escapeLines 2 (c :: s) := by
          rw [escapeLines, if_pos rfl, if_neg (by decide)]
        rw [hfirst, hw] at h
        simp [ha] at h

/-- A text over several lines is read back in front of its closing quotes. The induction is on the
text, for any number of quotes that stand in front of it. -/
theorem readEscapedLines_escapeLines (s : List Char) {rest : List Char}
    (hrest : ∀ r, rest ≠ '"' :: r) {quotes : Nat} (hquotes : quotes ≤ 2) :
    readEscapedLines false (escapeLines quotes s ++ '"' :: '"' :: '"' :: rest) =
      some (s, rest) := by
  induction s generalizing quotes with
  | nil =>
    rw [escapeLines, List.nil_append, readEscapedLines]
    all_goals simp_all
  | cons c s ih =>
    rw [escapeLines]
    split_ifs with hquote htwo hline
    · have hescape : Escape '"' ['\\', '"'] := .short rfl
      have hread := hescape.readEscapedLines_append
        (escapeLines 0 s ++ '"' :: '"' :: '"' :: rest)
      rw [ih (by omega)] at hread
      rw [hquote]
      exact hread
    · subst hquote
      by_cases hshort : s = [] ∨ s = ['"'] ∧ quotes = 0
      · -- the quotes at the end are read together with the closing ones
        rcases hshort with rfl | ⟨rfl, rfl⟩
        · rw [escapeLines, List.cons_append, List.nil_append, readEscapedLines]
          exact hrest
        · change readEscapedLines false ('"' :: '"' :: '"' :: '"' :: '"' :: rest) = _
          rw [readEscapedLines]
      · rw [List.cons_append, readEscapedLines_quote, ih (by omega)]
        · rfl
        · intro r hr
          rcases eq_of_two_quotes ⟨by omega, by omega⟩ hr with hnil | ⟨hone, hzero⟩
          · exact hshort (.inl hnil)
          · exact hshort (.inr ⟨hone, by omega⟩)
    · subst hline
      rw [List.cons_append, readEscapedLines, if_neg (by simp), if_neg (by simp), ih (by omega)]
      · rfl
      all_goals simp
    · rw [List.append_assoc, (escape_escapeChar hquote hline).readEscapedLines_append,
        ih (by omega)]
      rfl

theorem hasTriple_of_cons {q c : Char} {s : List Char} (h : hasTriple q (c :: s) = false) :
    hasTriple q s = false := by
  match s with
  | [] => rfl
  | [_] => rfl
  | a :: b :: s =>
    rw [hasTriple, Bool.or_eq_false_iff] at h
    exact h.2

/-- Where two quotes follow a quote of a text without three in a row, it ends in one quote more at
most. -/
theorem eq_of_two_single_quotes {s : List Char} (h : hasTriple '\'' ('\'' :: s) = false)
    {rest r : List Char} (heq : s ++ '\'' :: '\'' :: '\'' :: rest = '\'' :: '\'' :: r) :
    s = [] ∨ s = ['\''] := by
  match s with
  | [] => exact .inl rfl
  | [c] => exact .inr (by rw [(List.cons.inj heq).1])
  | a :: b :: s =>
    obtain ⟨rfl, hrest⟩ := List.cons.inj heq
    obtain ⟨rfl, -⟩ := List.cons.inj hrest
    simp [hasTriple] at h

/-- A text over several lines without escapes is read back in front of its closing quotes. -/
theorem readLiteralLines_append {s : List Char} (hcontrol : hasControl s = false)
    (htriple : hasTriple '\'' s = false) {rest : List Char} (hrest : ∀ r, rest ≠ '\'' :: r) :
    readLiteralLines (s ++ '\'' :: '\'' :: '\'' :: rest) = some (s, rest) := by
  induction s with
  | nil =>
    rw [List.nil_append, readLiteralLines]
    all_goals simp_all
  | cons c s ih =>
    simp only [hasControl, List.any_cons, Bool.or_eq_false_iff] at hcontrol
    have hread := ih hcontrol.2 (hasTriple_of_cons htriple)
    have hreturn : c ≠ '\r' := by
      rintro rfl
      exact absurd hcontrol.1 (by decide)
    by_cases hshort : c = '\'' ∧ (s = [] ∨ s = ['\''])
    · -- the quotes at the end are read together with the closing ones
      obtain ⟨rfl, rfl | rfl⟩ := hshort
      · rw [List.cons_append, List.nil_append, readLiteralLines]
        exact hrest
      · simp only [List.cons_append, List.nil_append]
        rw [readLiteralLines]
    · rw [List.cons_append, readLiteralLines, if_neg (by simp [hcontrol.1]), hread]
      · rfl
      · rintro r rfl heq
        exact hshort ⟨rfl, eq_of_two_single_quotes htriple heq⟩
      · rintro r rfl heq
        exact hshort ⟨rfl, eq_of_two_single_quotes htriple heq⟩
      · rintro r rfl heq
        exact hshort ⟨rfl, eq_of_two_single_quotes htriple heq⟩
      · exact fun _ hc => absurd hc hreturn

/-! ### Texts in the form that fits -/

theorem isControl_of_hasControl {s : List Char} (h : hasControl s = false)
    (hline : s.contains '\n' = false) : ∀ c ∈ s, isControl c = false := by
  intro c hc
  simp only [hasControl, List.any_eq_false, Bool.and_eq_true, bne_iff_ne, not_and,
    not_not] at h
  rw [← Bool.not_eq_true]
  intro hcontrol
  obtain rfl := h c hc hcontrol
  simp [hc] at hline

/-- A text in single quotes has none, and no control characters. -/
theorem of_formOf_eq_literal {s : List Char} (h : formOf s = .literal) :
    (∀ c ∈ s, isControl c = false) ∧ '\'' ∉ s := by
  rw [formOf] at h
  split_ifs at h with _ hliteral
  simp only [Bool.and_eq_true, Bool.not_eq_true'] at hliteral
  obtain ⟨⟨hcontrol, hline⟩, hquote⟩ := hliteral
  exact ⟨isControl_of_hasControl hcontrol hline, by simpa using hquote⟩

/-- A text in three single quotes has no three in a row, and no control characters but line
feeds. -/
theorem of_formOf_eq_literalLong {s : List Char} (h : formOf s = .literalLong) :
    hasControl s = false ∧ hasTriple '\'' s = false := by
  rw [formOf] at h
  split_ifs at h with _ _ _ hliteral
  simpa using hliteral

/-- The line break behind the opening quotes is there if the text has line feeds, and otherwise the
text starts with none. -/
theorem dropLineBreak_openingBreak {s w : List Char}
    (h : s.contains '\n' = false → startsLine w = false) :
    dropLineBreak (openingBreak s ++ w) = w := by
  rw [openingBreak]
  split_ifs with hline
  · rfl
  · have hstart := h (by simpa using hline)
    rw [List.nil_append]
    unfold dropLineBreak
    split <;> simp_all [startsLine]

theorem startsLine_append_quote {s : List Char} (hcontrol : hasControl s = false)
    (hline : s.contains '\n' = false) {q : Char} {rest : List Char}
    (hq : startsLine (q :: rest) = false) :
    startsLine (s ++ q :: rest) = false := by
  cases s with
  | nil => exact hq
  | cons c s =>
    have hc := isControl_of_hasControl hcontrol hline c List.mem_cons_self
    refine startsLine_cons ?_ ?_ _ <;> (rintro rfl; cases hc)

theorem startsLine_escapeLines {s : List Char} (hline : s.contains '\n' = false)
    (rest : List Char) : startsLine (escapeLines 0 s ++ '"' :: rest) = false := by
  cases s with
  | nil => rfl
  | cons c s =>
    have hc : c ≠ '\n' := by
      rintro rfl
      simp at hline
    rw [escapeLines]
    split_ifs with hquote htwo
    · rfl
    · rfl
    · obtain ⟨a, w, hw, -, ha, ha'⟩ := (escape_escapeChar hquote hc).exists_head
      rw [hw]
      exact startsLine_cons ha ha' _

/-- A text is read back from the form that it is written in, at the end of a line. -/
theorem readText_writeIn (s rest : List Char) :
    readText (writeIn (formOf s) s ++ '\n' :: rest) = some (String.ofList s, '\n' :: rest) := by
  cases hform : formOf s with
  | escaped =>
    simp only [writeIn, List.cons_append, List.nil_append, List.append_assoc]
    rw [readText, readEscaped_flatMap]
    · rfl
    · intro r hr
      cases s with
      | nil => simp at hr
      | cons c s =>
        obtain ⟨a, w, hw, ha, -⟩ := (escape_escapeInLine c).exists_head
        rw [List.flatMap_cons, hw] at hr
        exact ha (List.cons.inj hr).1
  | literal =>
    obtain ⟨hcontrol, hquote⟩ := of_formOf_eq_literal hform
    simp only [writeIn, List.cons_append, List.nil_append, List.append_assoc]
    rw [readText, readLiteral_append hcontrol hquote]
    · rfl
    · intro r hr
      cases s with
      | nil => simp at hr
      | cons c s => exact hquote ((List.cons.inj hr).1 ▸ List.mem_cons_self)
  | escapedLong =>
    have hend : ∀ r, '\n' :: rest ≠ '"' :: r := by simp
    have hread := readEscapedLines_escapeLines s hend (Nat.zero_le 2)
    rw [← dropLineBreak_openingBreak fun hline => startsLine_escapeLines hline _] at hread
    simp only [writeIn, List.cons_append, List.nil_append, List.append_assoc]
    rw [readText, hread]
    rfl
  | literalLong =>
    obtain ⟨hcontrol, htriple⟩ := of_formOf_eq_literalLong hform
    have hend : ∀ r, '\n' :: rest ≠ '\'' :: r := by simp
    have hread := readLiteralLines_append hcontrol htriple hend
    rw [← dropLineBreak_openingBreak fun hline =>
      startsLine_append_quote hcontrol hline rfl] at hread
    simp only [writeIn, List.cons_append, List.nil_append, List.append_assoc]
    rw [readText, hread]
    rfl

end Scaffold.Toml

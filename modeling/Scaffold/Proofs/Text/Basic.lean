import Mathlib.Data.List.TakeWhile
import Mathlib.Tactic.Common
import Mathlib.Tactic.SplitIfs
import Scaffold.Text.Basic

/-!
# Pieces, ends and digits of texts

Where a text is put together at a separator, its pieces are the pieces of the two parts. No piece
has a separator in it, and all pieces together are the text without its separators.

A trimmed text has no white space at its ends, and a text without white space at its ends is trimmed
already. White space at the ends of a text only adds empty pieces where a text is cut at it, and a
search for a character that is no white space finds it in the trimmed text if it finds it at all.
Both follow from what trimming takes away (`exists_around_trimChars`).

A number is written in decimal digits, of which the first is zero only if the number is. The digits
stand for the number again.

## Main results

* `splitAt_append_separator`, `fields_append_separator`: the pieces of a text that is put together.
* `not_separator_of_mem_splitAt`: a piece has no separator in it.
* `flatten_splitAt`, `flatten_fields`: all pieces together.
* `trim_trim`: a trimmed text is trimmed.
* `any_trimChars`, `fields_trimChars`: searching and cutting a trimmed text.
* `natOfDigits_toDigits`: the digits of a number stand for it.
-/

namespace Scaffold.Text

open Unicode (isWhiteSpace)

/-! ### Pieces -/

section

variable {isSeparator : Char → Bool}

theorem splitAt_ne_nil (s : List Char) : splitAt isSeparator s ≠ [] := by
  cases s with
  | nil => simp [splitAt]
  | cons c rest =>
    rw [splitAt]
    split
    · simp
    · split <;> simp

/-- An empty piece at the start is the whole of the empty text or in front of a separator. -/
theorem splitAt_eq_nil_cons {s : List Char} {pieces : List (List Char)}
    (h : splitAt isSeparator s = [] :: pieces) :
    s = [] ∧ pieces = [] ∨
      ∃ c rest, s = c :: rest ∧ isSeparator c = true ∧ pieces = splitAt isSeparator rest := by
  cases s with
  | nil => exact .inl ⟨rfl, (List.cons.inj h).2.symm⟩
  | cons c rest =>
    have hne : splitAt isSeparator rest ≠ [] := splitAt_ne_nil rest
    obtain ⟨piece, others, hrest⟩ := List.exists_cons_of_ne_nil hne
    rw [splitAt] at h
    split_ifs at h with hc
    · exact .inr ⟨c, rest, rfl, hc, (List.cons.inj h).2.symm⟩
    · rw [hrest] at h
      exact absurd (List.cons.inj h).1 (List.cons_ne_nil c piece)

theorem splitAt_append_separator (front : List Char) {c : Char} (hc : isSeparator c = true)
    (back : List Char) :
    splitAt isSeparator (front ++ c :: back) =
      splitAt isSeparator front ++ splitAt isSeparator back := by
  induction front with
  | nil => simp [splitAt, hc]
  | cons d front ih =>
    rw [List.cons_append, splitAt, splitAt, ih]
    split
    · rfl
    · have hne : splitAt isSeparator front ≠ [] := splitAt_ne_nil front
      obtain ⟨piece, pieces, h⟩ := List.exists_cons_of_ne_nil hne
      simp [h]

theorem splitAt_of_forall_not {s : List Char} (h : ∀ c ∈ s, isSeparator c = false) :
    splitAt isSeparator s = [s] := by
  induction s with
  | nil => rfl
  | cons c rest ih =>
    rw [splitAt, ih fun d hd => h d (List.mem_cons_of_mem _ hd)]
    simp [h c List.mem_cons_self]

theorem not_separator_of_mem_splitAt {s piece : List Char} (h : piece ∈ splitAt isSeparator s) :
    ∀ c ∈ piece, isSeparator c = false := by
  induction s generalizing piece with
  | nil =>
    obtain rfl : piece = [] := by simpa [splitAt] using h
    simp
  | cons c rest ih =>
    have hne : splitAt isSeparator rest ≠ [] := splitAt_ne_nil rest
    obtain ⟨first, pieces, hsplit⟩ := List.exists_cons_of_ne_nil hne
    rw [hsplit] at ih
    rw [splitAt] at h
    split at h
    · rcases List.mem_cons.mp h with rfl | h
      · simp
      · exact ih (hsplit ▸ h)
    · next hc =>
      rw [hsplit] at h
      rcases List.mem_cons.mp h with rfl | h
      · simpa [hc] using ih List.mem_cons_self
      · exact ih (List.mem_cons_of_mem _ h)

theorem fields_append_separator (front : List Char) {c : Char} (hc : isSeparator c = true)
    (back : List Char) :
    fields isSeparator (front ++ c :: back) =
      fields isSeparator front ++ fields isSeparator back := by
  rw [fields, splitAt_append_separator front hc, List.filter_append, fields, fields]

/-- All pieces together are the text without its separators. -/
theorem flatten_splitAt (s : List Char) :
    (splitAt isSeparator s).flatten = s.filter fun c => !isSeparator c := by
  induction s with
  | nil => rfl
  | cons c rest ih =>
    have hne : splitAt isSeparator rest ≠ [] := splitAt_ne_nil rest
    obtain ⟨piece, pieces, hsplit⟩ := List.exists_cons_of_ne_nil hne
    rw [hsplit] at ih
    rw [splitAt, hsplit]
    split
    · next hc => simpa [hc] using ih
    · next hc => simpa [hc] using ih

theorem flatten_fields (s : List Char) :
    (fields isSeparator s).flatten = s.filter fun c => !isSeparator c := by
  rw [fields, List.flatten_filter_not_isEmpty, flatten_splitAt]

theorem ne_nil_of_mem_fields {s piece : List Char} (h : piece ∈ fields isSeparator s) :
    piece ≠ [] := by
  simpa using (List.mem_filter.mp h).2

theorem fields_of_forall_not {s : List Char} (h : ∀ c ∈ s, isSeparator c = false) (hs : s ≠ []) :
    fields isSeparator s = [s] := by
  rw [fields, splitAt_of_forall_not h]
  simp [hs]

/-- Separators in front of a text add no pieces. -/
theorem fields_append_of_forall {blank : List Char} (h : ∀ c ∈ blank, isSeparator c = true)
    (s : List Char) : fields isSeparator (blank ++ s) = fields isSeparator s := by
  induction blank with
  | nil => rfl
  | cons c blank ih =>
    have hfront : fields isSeparator (c :: (blank ++ s)) =
        fields isSeparator [] ++ fields isSeparator (blank ++ s) :=
      fields_append_separator [] (h c List.mem_cons_self) _
    rw [List.cons_append, hfront, ih fun d hd => h d (List.mem_cons_of_mem c hd)]
    rfl

/-- Separators behind a text add no pieces. -/
theorem fields_append_forall {blank : List Char} (h : ∀ c ∈ blank, isSeparator c = true)
    (s : List Char) : fields isSeparator (s ++ blank) = fields isSeparator s := by
  cases blank with
  | nil => rw [List.append_nil]
  | cons c blank =>
    have hblank : fields isSeparator (blank ++ []) = fields isSeparator [] :=
      fields_append_of_forall (fun d hd => h d (List.mem_cons_of_mem c hd)) []
    rw [List.append_nil] at hblank
    rw [fields_append_separator s (h c List.mem_cons_self), hblank]
    exact List.append_nil _

end

/-! ### White space at the ends -/

theorem trimChars_of_forall_not {s : List Char} (hfirst : ∀ c, s.head? = some c → ¬ isWhiteSpace c)
    (hlast : ∀ c, s.getLast? = some c → ¬ isWhiteSpace c) : trimChars s = s := by
  have hfront : s.dropWhile isWhiteSpace = s := by
    cases s with
    | nil => rfl
    | cons c rest => exact List.dropWhile_cons_of_neg (hfirst c rfl)
  have hback : s.reverse.dropWhile isWhiteSpace = s.reverse := by
    cases hreverse : s.reverse with
    | nil => rfl
    | cons c rest =>
      refine List.dropWhile_cons_of_neg (hlast c ?_)
      rw [← List.head?_reverse, hreverse]
      rfl
  rw [trimChars, hfront, hback, List.reverse_reverse]

theorem not_isWhiteSpace_of_head?_dropWhile {s : List Char} {c : Char}
    (h : (s.dropWhile isWhiteSpace).head? = some c) : ¬ isWhiteSpace c := by
  have hhead := List.head?_dropWhile_not isWhiteSpace s
  rw [h] at hhead
  simpa using hhead

/-- A trimmed text has no white space at its ends. -/
theorem trimChars_trimChars (s : List Char) : trimChars (trimChars s) = trimChars s := by
  refine trimChars_of_forall_not (fun c hc => ?_) (fun c hc => ?_)
  · -- what is cut off at the end leaves the start as it was
    have hfront : trimChars s <+: s.dropWhile isWhiteSpace := by
      have hsuffix := List.dropWhile_suffix (l := (s.dropWhile isWhiteSpace).reverse) isWhiteSpace
      rw [trimChars, ← List.reverse_suffix, List.reverse_reverse]
      exact hsuffix
    obtain ⟨rest, hrest⟩ := hfront
    apply not_isWhiteSpace_of_head?_dropWhile (s := s)
    rw [← hrest, List.head?_append, hc, Option.some_or]
  · rw [trimChars, List.getLast?_reverse] at hc
    exact not_isWhiteSpace_of_head?_dropWhile hc

theorem trim_trim (s : String) : trim (trim s) = trim s := by
  rw [trim, trim, String.toList_ofList, trimChars_trimChars]

/-- A text is its trimmed form with white space around it. -/
theorem exists_around_trimChars (s : List Char) :
    ∃ before after, s = before ++ (trimChars s ++ after) ∧
      (∀ c ∈ before, isWhiteSpace c = true) ∧ ∀ c ∈ after, isWhiteSpace c = true := by
  let rest := s.dropWhile isWhiteSpace
  refine ⟨s.takeWhile isWhiteSpace, (rest.reverse.takeWhile isWhiteSpace).reverse, ?_,
    fun c hc => List.mem_takeWhile_imp hc,
    fun c hc => List.mem_takeWhile_imp (List.mem_reverse.mp hc)⟩
  have hrest : trimChars s ++ (rest.reverse.takeWhile isWhiteSpace).reverse = rest := by
    rw [trimChars, ← List.reverse_append, List.takeWhile_append_dropWhile, List.reverse_reverse]
  rw [hrest, List.takeWhile_append_dropWhile]

/-- A character that is no white space is found in the trimmed text if it is found at all. -/
theorem any_trimChars {p : Char → Bool} (hp : ∀ c, isWhiteSpace c = true → p c = false)
    (s : List Char) : (trimChars s).any p = s.any p := by
  obtain ⟨before, after, hs, hbefore, hafter⟩ := exists_around_trimChars s
  have hnone : ∀ blank : List Char, (∀ c ∈ blank, isWhiteSpace c = true) →
      blank.any p = false := by
    intro blank hblank
    rw [List.any_eq_false]
    intro c hc
    rw [hp c (hblank c hc)]
    exact Bool.false_ne_true
  conv_rhs => rw [hs]
  rw [List.any_append, List.any_append, hnone before hbefore, hnone after hafter, Bool.false_or,
    Bool.or_false]

theorem fields_trimChars {isSeparator : Char → Bool}
    (h : ∀ c, isWhiteSpace c = true → isSeparator c = true) (s : List Char) :
    fields isSeparator (trimChars s) = fields isSeparator s := by
  obtain ⟨before, after, hs, hbefore, hafter⟩ := exists_around_trimChars s
  conv_rhs => rw [hs]
  rw [fields_append_of_forall fun c hc => h c (hbefore c hc),
    fields_append_forall fun c hc => h c (hafter c hc)]

theorem toList_trim (s : String) : (trim s).toList = trimChars s.toList := by
  rw [trim, String.toList_ofList]

/-! ### Written numbers -/

theorem head?_toDigits_ne_zero {n : Nat} (h : 0 < n) : (Nat.toDigits 10 n).head? ≠ some '0' := by
  induction n using Nat.strongRecOn with
  | ind n ih =>
    by_cases hlt : n < 10
    · have hall : ∀ n < 10, 0 < n → Nat.digitChar n ≠ '0' := by decide
      rw [Nat.toDigits_of_lt_base hlt]
      simpa using hall n hlt h
    · have hdiv : 0 < n / 10 := by omega
      obtain ⟨c, cs, hcs⟩ :=
        List.exists_cons_of_ne_nil (Nat.toDigits_ne_nil (n := n / 10) (b := 10))
      have hhead := ih (n / 10) (by omega) hdiv
      rw [Nat.toDigits_of_base_le (by omega) (by omega), hcs]
      rwa [hcs] at hhead

/-- The value of a decimal digit. -/
def digitValue (c : Char) : Nat :=
  c.toNat - '0'.toNat

theorem isDigit_of_mem_toDigits {n : Nat} {c : Char} (h : c ∈ Nat.toDigits 10 n) :
    c.isDigit = true :=
  Nat.isDigit_of_mem_toDigits (by omega) (by omega) h

theorem digitValue_lt {c : Char} (h : c.isDigit = true) : digitValue c < 10 := by
  rw [Char.isDigit, Bool.and_eq_true, decide_eq_true_eq, decide_eq_true_eq] at h
  have hle : c.toNat ≤ '9'.toNat := h.2
  have hzero : '0'.toNat = 48 := rfl
  have hnine : '9'.toNat = 57 := rfl
  rw [digitValue]
  omega

theorem digitIn?_of_isDigit {c : Char} (h : c.isDigit = true) :
    digitIn? 10 c = some (digitValue c) := by
  rw [digitIn?, hexDigit?, if_pos h, Option.filter_some]
  exact if_pos (decide_eq_true (digitValue_lt h))

/-- The digits of a number stand for it. -/
theorem natOfDigits_toDigits (n : Nat) :
    natOfDigits 10 ((Nat.toDigits 10 n).map digitValue) = n := by
  have hfold : ∀ (s : List Char) (m : Nat), (s.map digitValue).foldl (fun n d => n * 10 + d) m =
      Nat.ofDigitChars 10 s m := by
    intro s m
    rw [List.foldl_map, Nat.ofDigitChars]
    simp only [Nat.mul_comm, digitValue]
  rw [natOfDigits, hfold, Nat.ofDigitChars_ten_toDigits]

theorem eq_zero_of_digitValue {c : Char} (h : c.isDigit = true) (hzero : digitValue c = 0) :
    c = '0' := by
  rw [Char.isDigit, Bool.and_eq_true, decide_eq_true_eq, decide_eq_true_eq] at h
  have hle : '0'.toNat ≤ c.toNat := h.1
  rw [digitValue] at hzero
  rw [← Char.ofNat_toNat c, show c.toNat = '0'.toNat by omega]
  rfl

/-- A written number starts with zero only if it is zero, and then has no more digits. -/
theorem map_digitValue_toDigits_ne (n d : Nat) (ds : List Nat) :
    (Nat.toDigits 10 n).map digitValue ≠ 0 :: d :: ds := by
  intro h
  obtain ⟨c, cs, hcs⟩ := List.exists_cons_of_ne_nil (Nat.toDigits_ne_nil (n := n) (b := 10))
  have hdigit : c.isDigit = true := isDigit_of_mem_toDigits (hcs ▸ List.mem_cons_self)
  simp only [hcs, List.map_cons, List.cons.injEq] at h
  have hlong : cs ≠ [] := by rintro rfl; simp at h
  obtain rfl := eq_zero_of_digitValue hdigit h.1
  rcases Nat.eq_zero_or_pos n with rfl | hpos
  · rw [Nat.toDigits_zero] at hcs
    exact hlong (List.cons.inj hcs).2.symm
  · exact head?_toDigits_ne_zero hpos (by rw [hcs]; rfl)

end Scaffold.Text

import Scaffold.Proofs.Naming.Characters

/-!
# Identifiers of names in ASCII

A name may be any text. If it is a text in ASCII, its type identifier and its field identifier are
identifiers of the generated language: they have characters, all of them letters and digits of
ASCII, the type identifier starts with a capital letter and the field identifier with a small one,
and the field identifier is no reserved word.

The words of such a name are letters and digits, and a change of case keeps them so. An identifier
starts with the case form of the first of them, which is a letter of that case unless it is a digit,
and then the fixed word stands in front. That word and the suffix behind a reserved word do not give
a reserved word again, since no reserved word starts with the one or ends with the other.

## Main definitions

* `Naming.IsIdentifier`: letters and digits of ASCII with a start of some kind.
* `Naming.IsTypeIdentifier`, `Naming.IsFieldIdentifier`: identifiers of types and of fields.

## Main results

* `Naming.isAlphanum_of_mem_words`: the words of a name in ASCII are letters and digits of ASCII.
* `Naming.isTypeIdentifier_entityName`, `Naming.isFieldIdentifier_fieldName`: the two kinds.
* `Naming.isIdentifier_of_ascii`: both identifiers of a name.
-/

namespace Scaffold

/-! ### Characters of ASCII -/

namespace Unicode

variable {c : Char}

theorem isAlpha_eq (c : Char) : c.isAlpha = (c.isUpper || c.isLower) :=
  rfl

theorem isAscii_of_isAlphanum (h : c.isAlphanum = true) : isAscii c = true := by
  unfold Char.isAlphanum Char.isAlpha Char.isUpper Char.isLower Char.isDigit at h
  simp only [Bool.or_eq_true, Bool.and_eq_true, decide_eq_true_eq, ge_iff_le,
    UInt32.le_iff_toNat_le, Char.reduceVal, UInt32.reduceToNat] at h
  rw [isAscii, decide_eq_true_eq, Char.toNat]
  omega

theorem upper_of_isAscii (h : isAscii c = true) : upper c = [c.toUpper] := by
  rw [upper, if_pos h]

theorem lower_of_isAscii (h : isAscii c = true) : lower c = [c.toLower] := by
  rw [lower, if_pos h]

theorem isAlphanumeric_of_isAscii (h : isAscii c = true) : isAlphanumeric c = c.isAlphanum := by
  rw [isAlphanumeric, if_pos h]

theorem isNumeric_of_isAscii (h : isAscii c = true) : isNumeric c = c.isDigit := by
  rw [isNumeric, if_pos h]

/-- What holds of the letters and digits below 128 holds of all of them. -/
@[elab_as_elim]
theorem forall_isAlphanum {motive : Char → Prop} {c : Char} (hc : c.isAlphanum = true)
    (h : ∀ n : Fin 128, (Char.ofNat n).isAlphanum = true → motive (Char.ofNat n)) : motive c := by
  have hascii := isAscii_of_isAlphanum hc
  revert hc
  exact forall_isAscii hascii h

/-- What a change of case does to letters and digits: they stay so, only digits do not get the case,
and no letter becomes a digit. -/
theorem isAlphanum_case (h : c.isAlphanum = true) :
    (c.toUpper.isAlphanum = true ∧ (c.toUpper.isDigit = false → c.toUpper.isUpper = true)) ∧
      (c.toLower.isAlphanum = true ∧ (c.toLower.isDigit = false → c.toLower.isLower = true)) ∧
      (c.isAlpha = true → c.toUpper.isDigit = false) :=
  forall_isAlphanum h (by decide +kernel)

theorem isAlphanum_toUpper (h : c.isAlphanum = true) : c.toUpper.isAlphanum = true :=
  (isAlphanum_case h).1.1

theorem isAlphanum_toLower (h : c.isAlphanum = true) : c.toLower.isAlphanum = true :=
  (isAlphanum_case h).2.1.1

/-- The capital form of a letter or digit is a capital letter unless it is a digit. -/
theorem isUpper_toUpper (h : c.isAlphanum = true) (hdigit : c.toUpper.isDigit = false) :
    c.toUpper.isUpper = true :=
  (isAlphanum_case h).1.2 hdigit

/-- The small form of a letter or digit is a small letter unless it is a digit. -/
theorem isLower_toLower (h : c.isAlphanum = true) (hdigit : c.toLower.isDigit = false) :
    c.toLower.isLower = true :=
  (isAlphanum_case h).2.1.2 hdigit

theorem not_isDigit_toUpper (h : c.isAlpha = true) : c.toUpper.isDigit = false :=
  (isAlphanum_case (by simp [Char.isAlphanum, h])).2.2 h

end Unicode

/-- In ASCII lower case is taken character by character. -/
theorem Text.lowercaseAfter_of_isAscii {before s : List Char}
    (h : ∀ c ∈ s, Unicode.isAscii c = true) : lowercaseAfter before s = s.map Char.toLower := by
  have hsigma : Unicode.isAscii 'Σ' = false := by decide
  induction s generalizing before with
  | nil => rfl
  | cons c rest ih =>
    have hc := h c List.mem_cons_self
    have hne : c ≠ 'Σ' := by
      rintro rfl
      exact absurd hc (by simp [hsigma])
    rw [lowercaseAfter, if_neg hne, Unicode.lower_of_isAscii hc,
      ih fun d hd => h d (List.mem_cons_of_mem _ hd)]
    rfl

namespace Naming

/-! ### Identifiers -/

/-- A text that is not empty, is made of letters and digits of ASCII and starts with a character of
some kind. -/
def IsIdentifier (isStart : Char → Bool) (s : String) : Prop :=
  s ≠ "" ∧ s.toList.all Char.isAlphanum = true ∧ s.toList.head?.any isStart = true

/-- An identifier of a type in ASCII. -/
def IsTypeIdentifier (s : String) : Prop :=
  IsIdentifier Char.isUpper s

/-- An identifier of a field in ASCII: the reserved words are none. -/
def IsFieldIdentifier (s : String) : Prop :=
  IsIdentifier Char.isLower s ∧ s ∉ reservedWords

instance (isStart : Char → Bool) (s : String) : Decidable (IsIdentifier isStart s) :=
  inferInstanceAs (Decidable (_ ∧ _ ∧ _))

instance (s : String) : Decidable (IsTypeIdentifier s) :=
  inferInstanceAs (Decidable (IsIdentifier _ s))

instance (s : String) : Decidable (IsFieldIdentifier s) :=
  inferInstanceAs (Decidable (_ ∧ _))

section

variable {isStart : Char → Bool}

theorem isIdentifier_ofList_cons {c : Char} {rest : List Char} (hstart : isStart c = true)
    (h : ∀ d ∈ c :: rest, d.isAlphanum = true) :
    IsIdentifier isStart (String.ofList (c :: rest)) :=
  ⟨by simp, by simpa using h, by simpa using hstart⟩

/-- An identifier stays one if letters and digits are put behind it. -/
theorem IsIdentifier.append {s t : String} (hs : IsIdentifier isStart s)
    (ht : ∀ c ∈ t.toList, c.isAlphanum = true) : IsIdentifier isStart (s ++ t) := by
  obtain ⟨hne, halphanum, hstart⟩ := hs
  have hlist : s.toList ≠ [] := by simpa using hne
  obtain ⟨c, rest, hcons⟩ := List.exists_cons_of_ne_nil hlist
  refine ⟨by simp [hne], ?_, ?_⟩
  · rw [String.toList_append, List.all_append, halphanum, List.all_eq_true.mpr ht]
    rfl
  · rw [hcons] at hstart
    rw [String.toList_append, hcons]
    exact hstart

end

/-! ### Words -/

/-- There are no marks in ASCII. -/
theorem unmarked_of_isAscii {raw : List Char} (h : ∀ c ∈ raw, Unicode.isAscii c = true) :
    Unmarked raw := by
  intro run hrun c hc
  exact Unicode.not_isMark_of_isAscii (h c (mem_of_mem_fields hrun (List.mem_of_head? hc)).1)

/-- The words of a name in ASCII together are its letters and digits. -/
theorem flatten_words {raw : List Char} (h : ∀ c ∈ raw, Unicode.isAscii c = true) :
    (words raw).flatten = raw.filter Char.isAlphanum := by
  rw [(unmarked_of_isAscii h).flatten_words]
  exact List.filter_congr fun c hc => Unicode.isAlphanumeric_of_isAscii (h c hc)

/-- The words of a name in ASCII are made of letters and digits of ASCII. -/
theorem isAlphanum_of_mem_words {raw : List Char} (h : ∀ c ∈ raw, Unicode.isAscii c = true) :
    ∀ word ∈ words raw, ∀ c ∈ word, c.isAlphanum = true := by
  intro word hword c hc
  have hmem : c ∈ (words raw).flatten := List.mem_flatten.mpr ⟨word, hword, hc⟩
  rw [flatten_words h] at hmem
  exact List.of_mem_filter hmem

theorem not_isMark_of_isAlphanum {c : Char} (h : c.isAlphanum = true) : Unicode.isMark c = false :=
  Unicode.not_isMark_of_isAscii (Unicode.isAscii_of_isAlphanum h)

/-- The letters of a text of letters and digits are its characters. -/
theorem letters_of_isAlphanum {s : List Char} (h : ∀ c ∈ s, c.isAlphanum = true) :
    letters s = s.map fun c => [c] :=
  letters_of_forall_not_isMark fun c hc => not_isMark_of_isAlphanum (h c hc)

theorem lowercaseChars_of_isAlphanum {word : List Char} (h : ∀ c ∈ word, c.isAlphanum = true) :
    Text.lowercaseChars word = word.map Char.toLower :=
  Text.lowercaseAfter_of_isAscii fun c hc => Unicode.isAscii_of_isAlphanum (h c hc)

theorem isAlphanum_lowercaseChars {word : List Char} (h : ∀ c ∈ word, c.isAlphanum = true) :
    ∀ c ∈ Text.lowercaseChars word, c.isAlphanum = true := by
  rw [lowercaseChars_of_isAlphanum h, List.forall_mem_map]
  exact fun c hc => Unicode.isAlphanum_toLower (h c hc)

theorem capitalizedWord_of_isAlphanum {c : Char} {rest : List Char}
    (h : ∀ d ∈ c :: rest, d.isAlphanum = true) :
    capitalizedWord (c :: rest) = c.toUpper :: rest.map Char.toLower := by
  obtain ⟨hc, hrest⟩ := List.forall_mem_cons.mp h
  have hupper := Unicode.upper_of_isAscii (Unicode.isAscii_of_isAlphanum hc)
  rw [capitalizedWord, letters_cons c fun d hd =>
    not_isMark_of_isAlphanum (hrest d (List.mem_of_head? hd))]
  dsimp only
  rw [flatten_letters, List.flatMap_singleton, hupper, lowercaseChars_of_isAlphanum hrest]
  rfl

theorem isAlphanum_pascalCase {ws : List (List Char)}
    (h : ∀ word ∈ ws, ∀ c ∈ word, c.isAlphanum = true) :
    ∀ c ∈ pascalCase ws, c.isAlphanum = true := by
  intro d hd
  obtain ⟨word, hword, hd⟩ := List.mem_flatMap.mp hd
  have hword := h word hword
  cases word with
  | nil => cases hd
  | cons c rest =>
    obtain ⟨hc, hrest⟩ := List.forall_mem_cons.mp hword
    rw [capitalizedWord_of_isAlphanum hword] at hd
    rcases List.mem_cons.mp hd with rfl | hd
    · exact Unicode.isAlphanum_toUpper hc
    · obtain ⟨e, he, rfl⟩ := List.mem_map.mp hd
      exact Unicode.isAlphanum_toLower (hrest e he)

theorem not_isDigit_of_not_startsWithNumeral {c : Char} {rest : List Char}
    (hc : c.isAlphanum = true) (h : ¬ startsWithNumeral (c :: rest) = true) :
    c.isDigit = false := by
  simpa [startsWithNumeral, Unicode.isNumeric_of_isAscii (Unicode.isAscii_of_isAlphanum hc)] using h

/-! ### The identifiers of a name -/

theorem isTypeIdentifier_entityName {raw : String}
    (h : ∀ c ∈ raw.toList, Unicode.isAscii c = true) : IsTypeIdentifier (entityName raw) := by
  have hfixed : IsTypeIdentifier "Entity" := by decide
  have hwords := isAlphanum_of_mem_words h
  rw [entityName]
  split
  · exact hfixed
  · next word others heq =>
    rw [heq] at hwords
    have hname := isAlphanum_pascalCase hwords
    have hne : word ≠ [] := ne_nil_of_mem_words (show word ∈ words raw.toList by simp [heq])
    obtain ⟨c, rest, rfl⟩ := List.exists_cons_of_ne_nil hne
    have hword := hwords _ List.mem_cons_self
    have hcons : pascalCase ((c :: rest) :: others) =
        c.toUpper :: (rest.map Char.toLower ++ pascalCase others) := by
      rw [pascalCase, List.flatMap_cons, capitalizedWord_of_isAlphanum hword]
      rfl
    rw [hcons] at hname ⊢
    dsimp only
    split_ifs with hnumeral
    · exact hfixed.append (by simpa using hname)
    · have hdigit := not_isDigit_of_not_startsWithNumeral (hname _ List.mem_cons_self) hnumeral
      exact isIdentifier_ofList_cons
        (Unicode.isUpper_toUpper (hword c List.mem_cons_self) hdigit) hname

/-- No reserved word starts with the fixed word in front of digits. -/
theorem field_append_not_mem_reservedWords (s : String) : "field" ++ s ∉ reservedWords := by
  have hnone : ∀ word ∈ reservedWords, ¬ "field".toList <+: word.toList := by decide
  exact fun hmem => hnone _ hmem (by simp [String.toList_append])

/-- No reserved word ends with the suffix behind reserved words. -/
theorem append_value_not_mem_reservedWords (s : String) : s ++ "Value" ∉ reservedWords := by
  have hnone : ∀ word ∈ reservedWords, ¬ "Value".toList <:+ word.toList := by decide
  exact fun hmem => hnone _ hmem (by simp [String.toList_append])

theorem isFieldIdentifier_fieldName {raw : String}
    (h : ∀ c ∈ raw.toList, Unicode.isAscii c = true) : IsFieldIdentifier (fieldName raw) := by
  have hwords := isAlphanum_of_mem_words h
  rw [fieldName]
  split
  · exact by decide
  · next word others heq =>
    rw [heq] at hwords
    have hne : word ≠ [] := ne_nil_of_mem_words (show word ∈ words raw.toList by simp [heq])
    obtain ⟨c, rest, rfl⟩ := List.exists_cons_of_ne_nil hne
    obtain ⟨hword, hothers⟩ := List.forall_mem_cons.mp hwords
    have hname : ∀ d ∈ camelCase ((c :: rest) :: others), d.isAlphanum = true := by
      rw [camelCase, List.forall_mem_append]
      exact ⟨isAlphanum_lowercaseChars hword, isAlphanum_pascalCase hothers⟩
    have hcons : camelCase ((c :: rest) :: others) =
        c.toLower :: (rest.map Char.toLower ++ pascalCase others) := by
      rw [camelCase, lowercaseChars_of_isAlphanum hword]
      rfl
    rw [hcons] at hname ⊢
    generalize rest.map Char.toLower ++ pascalCase others = tail at hname ⊢
    have hstart : ¬ startsWithNumeral (c.toLower :: tail) = true →
        IsIdentifier Char.isLower (String.ofList (c.toLower :: tail)) := by
      intro hnumeral
      have hdigit := not_isDigit_of_not_startsWithNumeral (hname _ List.mem_cons_self) hnumeral
      exact isIdentifier_ofList_cons
        (Unicode.isLower_toLower (hword c List.mem_cons_self) hdigit) hname
    dsimp only
    split_ifs with hnumeral hreserved
    · have hfixed : IsIdentifier Char.isLower "field" := by decide
      exact ⟨hfixed.append (by simpa using hname), field_append_not_mem_reservedWords _⟩
    · have hsuffix : "Value".toList.all Char.isAlphanum = true := by decide
      exact ⟨(hstart hnumeral).append (List.all_eq_true.mp hsuffix),
        append_value_not_mem_reservedWords _⟩
    · exact ⟨hstart hnumeral, hreserved⟩

/-- The identifiers of a name in ASCII are identifiers. -/
theorem isIdentifier_of_ascii {raw : String} (h : ∀ c ∈ raw.toList, Unicode.isAscii c = true) :
    IsTypeIdentifier (entityName raw) ∧ IsFieldIdentifier (fieldName raw) :=
  ⟨isTypeIdentifier_entityName h, isFieldIdentifier_fieldName h⟩

theorem isIdentifier_of_ascii_2d_class :
    (∀ c ∈ "2D class".toList, Unicode.isAscii c = true) ∧
      IsTypeIdentifier (entityName "2D class") ∧ IsFieldIdentifier (fieldName "2D class") := by
  have hascii : "2D class".toList.all Unicode.isAscii = true := by decide
  exact ⟨List.all_eq_true.mp hascii, isIdentifier_of_ascii (List.all_eq_true.mp hascii)⟩

example : entityName "2D class" = "Entity2DClass" ∧ fieldName "2D class" = "field2DClass" ∧
    fieldName "Class" = "classValue" := by
  decide

end Naming

end Scaffold

import Scaffold.Proofs.Naming.Plurals
import Scaffold.Proofs.Naming.Separators

/-!
# The names of accessors

A field is set and read by two methods, each named by a fixed word and the field with its first
letter in upper case. On texts that start with a small letter of ASCII nothing is lost by that, so
different fields have different accessors. Beyond ASCII that fails, since a letter may become two:
the fields `ß` and `sS` would both be set by `setSS`.

The same words are joined in three ways: with the first word in small letters as a field, with all
words capitalized as a type, and as a field that is capitalized afterwards. The last two agree, up
to the escapes that keep a field from being a reserved word and either from starting with a digit.

## Main definitions

* `Naming.camelName`: the words of a name joined as those of a field, without an escape.

## Main results

* `Naming.setter_inj`, `Naming.getter_inj`: different fields have different accessors.
* `Naming.capitalize_fieldName_eq_entityName_iff`: when a capitalized field is the type.
-/

namespace Scaffold

namespace Unicode

variable {c : Char}

/-- The upper case of a letter or digit does not depend on its case. -/
theorem toUpper_toLower (h : c.isAlphanum = true) : c.toLower.toUpper = c.toUpper :=
  forall_isAlphanum h (by decide +kernel)

/-- A small letter is found again from its upper case. -/
theorem toLower_toUpper_of_isLower (h : c.isLower = true) : c.toUpper.toLower = c := by
  have halphanum : c.isAlphanum = true := by simp [Char.isAlphanum, isAlpha_eq, h]
  revert h
  exact forall_isAlphanum halphanum (by decide +kernel)

/-- What is a letter or digit is one of the two. -/
theorem isAlpha_eq_not_isDigit (h : c.isAlphanum = true) : c.isAlpha = !c.isDigit :=
  forall_isAlphanum h (by decide +kernel)

/-- A change of case keeps digits, and makes none. -/
theorem isDigit_case (h : c.isAlphanum = true) :
    c.toUpper.isDigit = c.isDigit ∧ c.toLower.isDigit = c.isDigit :=
  forall_isAlphanum h (by decide +kernel)

end Unicode

namespace Naming

/-! ### Different fields -/

section

variable {s t : String}

theorem IsIdentifier.exists_cons {isStart : Char → Bool} (h : IsIdentifier isStart s) :
    ∃ c rest, s = String.ofList (c :: rest) ∧ c.isAlphanum = true ∧ isStart c = true := by
  obtain ⟨hne, halphanum, hstart⟩ := h
  have hlist : s.toList ≠ [] := by simpa using hne
  obtain ⟨c, rest, hcons⟩ := List.exists_cons_of_ne_nil hlist
  rw [hcons] at halphanum hstart
  refine ⟨c, rest, by rw [← hcons, String.ofList_toList], ?_, by simpa using hstart⟩
  exact List.all_eq_true.mp halphanum c List.mem_cons_self

theorem capitalize_cons {c : Char} (hc : c.isAlphanum = true) (rest : List Char) :
    capitalize (String.ofList (c :: rest)) = String.ofList (c.toUpper :: rest) := by
  rw [capitalize, String.toList_ofList]
  dsimp only
  rw [Unicode.upper_of_isAscii (Unicode.isAscii_of_isAlphanum hc), List.singleton_append]

theorem capitalize_append (hs : s ≠ "") (t : String) :
    capitalize (s ++ t) = capitalize s ++ t := by
  have hlist : s.toList ≠ [] := by simpa using hs
  obtain ⟨c, rest, hcons⟩ := List.exists_cons_of_ne_nil hlist
  rw [capitalize, capitalize, String.toList_append, hcons, List.cons_append]
  dsimp only
  rw [← List.append_assoc, String.ofList_append, String.ofList_toList]

/-- Texts that start with small letters are found again when they are capitalized. -/
theorem capitalize_inj (hs : IsIdentifier Char.isLower s) (ht : IsIdentifier Char.isLower t) :
    capitalize s = capitalize t ↔ s = t := by
  refine ⟨fun h => ?_, congrArg capitalize⟩
  obtain ⟨c, rest, rfl, hc, hlower⟩ := hs.exists_cons
  obtain ⟨d, rest', rfl, hd, hlower'⟩ := ht.exists_cons
  rw [capitalize_cons hc, capitalize_cons hd] at h
  obtain ⟨hstart, hrest⟩ := List.cons.inj (String.ofList_injective h)
  have hcd : c = d := by
    rw [← Unicode.toLower_toUpper_of_isLower hlower, hstart,
      Unicode.toLower_toUpper_of_isLower hlower']
  rw [hcd, hrest]

theorem setter_inj (hs : IsIdentifier Char.isLower s) (ht : IsIdentifier Char.isLower t) :
    setter s = setter t ↔ s = t := by
  rw [setter, setter, String.append_right_inj, capitalize_inj hs ht]

theorem getter_inj (hs : IsIdentifier Char.isLower s) (ht : IsIdentifier Char.isLower t) :
    getter s = getter t ↔ s = t := by
  rw [getter, getter, String.append_right_inj, capitalize_inj hs ht]

/-- No method sets one field and reads another. -/
theorem setter_ne_getter (s t : String) : setter s ≠ getter t := by
  intro h
  have hlist := congrArg String.toList h
  rw [setter, getter, String.toList_append, String.toList_append] at hlist
  exact absurd (List.cons.inj hlist).1 (by decide)

end

/-! ### Fields and types -/

/-- The words of a name joined as those of a field, without an escape. -/
def camelName (raw : String) : String :=
  String.ofList (camelCase (words raw.toList))

section

variable {raw : String}

/-- A name starts with a letter if its words do. -/
theorem startsWithLetter_iff :
    StartsWithLetter raw ↔ (words raw.toList).flatten.head?.any Char.isAlpha = true := by
  rw [StartsWithLetter, head?_flatten_words]

/-- A name in ASCII has no words, or its words start with a letter or digit, and so do its
identifiers before an escape. -/
theorem words_cases (h : ∀ c ∈ raw.toList, Unicode.isAscii c = true) :
    words raw.toList = [] ∨ ∃ c tail, c.isAlphanum = true ∧ words raw.toList ≠ [] ∧
      (words raw.toList).flatten.head? = some c ∧
      camelCase (words raw.toList) = c.toLower :: tail ∧
      pascalCase (words raw.toList) = c.toUpper :: tail := by
  have hwords := isAlphanum_of_mem_words h
  cases heq : words raw.toList with
  | nil => exact .inl rfl
  | cons word others =>
    have hne : word ≠ [] := ne_nil_of_mem_words (show word ∈ words raw.toList by simp [heq])
    obtain ⟨c, rest, rfl⟩ := List.exists_cons_of_ne_nil hne
    rw [heq] at hwords
    have hword := hwords _ List.mem_cons_self
    refine .inr ⟨c, rest.map Char.toLower ++ pascalCase others, hword c List.mem_cons_self,
      List.cons_ne_nil _ _, rfl, ?_, ?_⟩
    · rw [camelCase, lowercaseChars_of_isAlphanum hword, List.map_cons, List.cons_append]
    · rw [pascalCase, List.flatMap_cons, capitalizedWord_of_isAlphanum hword, List.cons_append]
      rfl

theorem fieldName_of_words (hne : words raw.toList ≠ []) :
    fieldName raw =
      if startsWithNumeral (camelCase (words raw.toList)) then "field" ++ camelName raw
      else if camelName raw ∈ reservedWords then camelName raw ++ "Value"
      else camelName raw := by
  obtain ⟨word, others, heq⟩ := List.exists_cons_of_ne_nil hne
  rw [fieldName, camelName, heq]

theorem entityName_of_words (hne : words raw.toList ≠ []) :
    entityName raw =
      if startsWithNumeral (pascalCase (words raw.toList)) then
        "Entity" ++ String.ofList (pascalCase (words raw.toList))
      else String.ofList (pascalCase (words raw.toList)) := by
  obtain ⟨word, others, heq⟩ := List.exists_cons_of_ne_nil hne
  rw [entityName, heq]

theorem startsWithNumeral_cons {c : Char} (hc : c.isAlphanum = true) (tail : List Char) :
    startsWithNumeral (c :: tail) = c.isDigit := by
  rw [startsWithNumeral, List.head?_cons, Option.any_some,
    Unicode.isNumeric_of_isAscii (Unicode.isAscii_of_isAlphanum hc)]

/-- The field of a name in ASCII, capitalized, is its type exactly if no escape was needed: the name
starts with a letter, and its words do not make a reserved word. -/
theorem capitalize_fieldName_eq_entityName_iff
    (h : ∀ c ∈ raw.toList, Unicode.isAscii c = true) :
    capitalize (fieldName raw) = entityName raw ↔
      StartsWithLetter raw ∧ camelName raw ∉ reservedWords := by
  rw [startsWithLetter_iff]
  rcases words_cases h with hnone | ⟨c, tail, hc, hne, hhead, hcamel, hpascal⟩
  · have hfield : fieldName raw = "field" := by rw [fieldName, hnone]
    have hentity : entityName raw = "Entity" := by rw [entityName, hnone]
    rw [hfield, hentity, hnone]
    refine ⟨fun hfixed => absurd hfixed (by decide +kernel), fun hletter => ?_⟩
    exact absurd hletter.1 (by simp)
  · have hupper := startsWithNumeral_cons (Unicode.isAlphanum_toUpper hc) tail
    have hlower := startsWithNumeral_cons (Unicode.isAlphanum_toLower hc) tail
    rw [(Unicode.isDigit_case hc).1] at hupper
    rw [(Unicode.isDigit_case hc).2] at hlower
    rw [fieldName_of_words hne, entityName_of_words hne, hcamel, hpascal, hupper, hlower, hhead]
    have halpha := Unicode.isAlpha_eq_not_isDigit hc
    have hcapital : capitalize (camelName raw) = String.ofList (c.toUpper :: tail) := by
      rw [camelName, hcamel, capitalize_cons (Unicode.isAlphanum_toLower hc),
        Unicode.toUpper_toLower hc]
    by_cases hdigit : c.isDigit = true
    · -- both have a fixed word in front, but not the same one
      have hstart : capitalize ("field" ++ camelName raw) ≠
          "Entity" ++ String.ofList (c.toUpper :: tail) := by
        have hfixed : capitalize "field" = "Field" := by decide +kernel
        rw [capitalize_append (by decide), hfixed]
        intro heq
        have hlist := congrArg String.toList heq
        rw [String.toList_append, String.toList_append] at hlist
        exact absurd (List.cons.inj hlist).1 (by decide)
      rw [if_pos hdigit, if_pos hdigit]
      exact iff_of_false hstart fun hletter => by simp [halpha, hdigit] at hletter
    · rw [if_neg hdigit, if_neg hdigit]
      split_ifs with hreserved
      · have hnonempty : camelName raw ≠ "" := by simp [camelName, hcamel]
        rw [capitalize_append hnonempty, hcapital]
        exact iff_of_false (fun heq => by simp at heq) fun hletter => hletter.2 hreserved
      · exact iff_of_true hcapital ⟨by simp [halpha, hdigit], hreserved⟩

end

end Naming

end Scaffold

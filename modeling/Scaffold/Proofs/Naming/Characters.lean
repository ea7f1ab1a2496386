import Scaffold.Proofs.Naming.Words

/-!
# The characters of identifiers

The case of the words of a name is changed on the way into an identifier. Whatever letters they are
made of, no character gets into a type identifier that would cut it again where it is used, and
spaces only stand inside it. That is all that the place of an identifier in a path or in a document
depends on.

## Main definitions

* `Text.lowercaseForm`: the lower case of a character between two texts.

## Main results

* `Naming.isPlain_of_mem_entityName`, `Naming.entityName_ne_empty`: a type identifier has characters
  and all of them are solid or spaces.
* `Naming.trim_entityName`: a type identifier has no white space at its ends.
-/

namespace Scaffold

open Unicode (SolidEnds isPlain isSolid)

/-! ### Lower case -/

namespace Text

/-- The lower case of a character between two texts, the one in front given from its end. -/
def lowercaseForm (before : List Char) (c : Char) (after : List Char) : List Char :=
  if c = 'Σ' then
    if meetsCased before && !meetsCased after then ['ς'] else ['σ']
  else Unicode.lower c

theorem lowercaseAfter_cons (before : List Char) (c : Char) (rest : List Char) :
    lowercaseAfter before (c :: rest) =
      lowercaseForm before c rest ++ lowercaseAfter (c :: before) rest :=
  rfl

/-- What holds of the two small sigmas and of the case form of a character holds of its lower case
in every text. -/
theorem forall_mem_lowercaseForm {motive : Char → Prop} {c : Char}
    (hsigma : motive 'ς' ∧ motive 'σ') (h : ∀ d ∈ Unicode.lower c, motive d)
    (before after : List Char) : ∀ d ∈ lowercaseForm before c after, motive d := by
  rw [lowercaseForm]
  split_ifs
  · simpa using hsigma.1
  · simpa using hsigma.2
  · exact h

theorem lowercaseForm_ne_nil (before : List Char) (c : Char) (after : List Char) :
    lowercaseForm before c after ≠ [] := by
  rw [lowercaseForm]
  split_ifs
  · simp
  · simp
  · exact Unicode.lower_ne_nil c

theorem lowercaseAfter_ne_nil {before s : List Char} (h : s ≠ []) :
    lowercaseAfter before s ≠ [] := by
  obtain ⟨c, rest, rfl⟩ := List.exists_cons_of_ne_nil h
  rw [lowercaseAfter_cons]
  exact List.append_ne_nil_of_left_ne_nil (lowercaseForm_ne_nil before c rest) _

/-- A text of plain characters has plain characters in lower case. -/
theorem isPlain_of_mem_lowercaseAfter {before s : List Char} (h : ∀ c ∈ s, isPlain c = true) :
    ∀ c ∈ lowercaseAfter before s, isPlain c = true := by
  have hsigma : isPlain 'ς' = true ∧ isPlain 'σ' = true := by decide
  induction s generalizing before with
  | nil => simp [lowercaseAfter]
  | cons c rest ih =>
    obtain ⟨hc, hrest⟩ := List.forall_mem_cons.mp h
    rw [lowercaseAfter_cons, List.forall_mem_append]
    exact ⟨forall_mem_lowercaseForm hsigma (Unicode.isPlain_of_mem_lower hc) before rest,
      ih hrest⟩

/-- A text that ends in a solid character does so in lower case. -/
theorem isSolid_getLast_lowercaseAfter {before s : List Char}
    (h : ∀ c ∈ s.getLast?, isSolid c = true) :
    ∀ c ∈ (lowercaseAfter before s).getLast?, isSolid c = true := by
  have hsigma : isSolid 'ς' = true ∧ isSolid 'σ' = true := by decide
  induction s generalizing before with
  | nil => simp [lowercaseAfter]
  | cons c rest ih =>
    intro d hd
    rw [lowercaseAfter_cons] at hd
    by_cases hrest : rest = []
    · subst hrest
      rw [lowercaseAfter, List.append_nil] at hd
      exact forall_mem_lowercaseForm hsigma (Unicode.isSolid_of_mem_lower (h c rfl)) before [] d
        (List.mem_of_getLast? hd)
    · have hlower : lowercaseAfter (c :: before) rest ≠ [] := lowercaseAfter_ne_nil hrest
      rw [List.getLast?_append_of_ne_nil _ hlower] at hd
      refine ih (fun e he => h e ?_) d hd
      obtain ⟨f, rest, rfl⟩ := List.exists_cons_of_ne_nil hrest
      rwa [List.getLast?_cons_cons]

end Text

namespace Naming

/-! ### Capitalized words -/

/-- The letters of a word: a first one, which is capitalized, and those behind it. -/
theorem exists_capitalizedWord {word : List Char} (h : word ≠ []) :
    ∃ first rest, first ≠ [] ∧ word = first ++ rest ∧
      capitalizedWord word = first.flatMap Unicode.upper ++ Text.lowercaseChars rest := by
  have hletters : letters word ≠ [] := mt letters_eq_nil.mp h
  obtain ⟨first, others, hcons⟩ := List.exists_cons_of_ne_nil hletters
  refine ⟨first, others.flatten, ne_nil_of_mem_letters (s := word) (by simp [hcons]), ?_, ?_⟩
  · rw [← List.flatten_cons, ← hcons, flatten_letters]
  · rw [capitalizedWord, hcons]

theorem capitalizedWord_ne_nil {word : List Char} (h : word ≠ []) : capitalizedWord word ≠ [] := by
  obtain ⟨first, rest, hfirst, -, hcapital⟩ := exists_capitalizedWord h
  obtain ⟨c, marks, rfl⟩ := List.exists_cons_of_ne_nil hfirst
  simp [hcapital, Unicode.upper_ne_nil]

theorem isPlain_of_mem_capitalizedWord {word : List Char} (h : ∀ c ∈ word, isPlain c = true) :
    ∀ c ∈ capitalizedWord word, isPlain c = true := by
  by_cases hne : word = []
  · subst hne
    exact fun c hc => by cases hc
  · obtain ⟨first, rest, -, rfl, hcapital⟩ := exists_capitalizedWord hne
    obtain ⟨hfirst, hrest⟩ := List.forall_mem_append.mp h
    rw [hcapital, List.forall_mem_append]
    refine ⟨fun d hd => ?_, Text.isPlain_of_mem_lowercaseAfter hrest⟩
    obtain ⟨c, hc, hd⟩ := List.mem_flatMap.mp hd
    exact Unicode.isPlain_of_mem_upper (hfirst c hc) d hd

theorem isSolid_head_capitalizedWord {word : List Char} (hne : word ≠ [])
    (h : ∀ c ∈ word.head?, isSolid c = true) :
    ∀ c ∈ (capitalizedWord word).head?, isSolid c = true := by
  obtain ⟨first, rest, hfirst, rfl, hcapital⟩ := exists_capitalizedWord hne
  obtain ⟨c, marks, rfl⟩ := List.exists_cons_of_ne_nil hfirst
  intro d hd
  rw [hcapital, List.flatMap_cons, List.append_assoc,
    List.head?_append_of_ne_nil _ (Unicode.upper_ne_nil c)] at hd
  exact Unicode.isSolid_of_mem_upper (h c rfl) d (List.mem_of_head? hd)

theorem isSolid_getLast_capitalizedWord {word : List Char} (hne : word ≠ [])
    (h : ∀ c ∈ word.getLast?, isSolid c = true) :
    ∀ c ∈ (capitalizedWord word).getLast?, isSolid c = true := by
  obtain ⟨first, rest, hfirst, rfl, hcapital⟩ := exists_capitalizedWord hne
  intro d hd
  rw [hcapital] at hd
  by_cases hrest : rest = []
  · -- the word is one letter, and its last character is in upper case
    subst hrest
    rw [List.append_nil] at h
    obtain ⟨front, c, rfl⟩ := (List.eq_nil_or_concat' first).resolve_left hfirst
    rw [Text.lowercaseChars, Text.lowercaseAfter, List.append_nil, List.flatMap_append,
      List.flatMap_singleton, List.getLast?_append_of_ne_nil _ (Unicode.upper_ne_nil c)] at hd
    exact Unicode.isSolid_of_mem_upper (h c (by simp)) d (List.mem_of_getLast? hd)
  · have hlower : Text.lowercaseChars rest ≠ [] := Text.lowercaseAfter_ne_nil hrest
    rw [List.getLast?_append_of_ne_nil _ hlower] at hd
    rw [List.getLast?_append_of_ne_nil _ hrest] at h
    exact Text.isSolid_getLast_lowercaseAfter h d hd

/-- Capitalized words start and end with solid characters if the words do. -/
theorem solidEnds_pascalCase {ws : List (List Char)} (hne : ∀ word ∈ ws, word ≠ [])
    (h : SolidEnds ws.flatten) : SolidEnds (pascalCase ws) := by
  obtain ⟨hhead, hlast⟩ := h
  constructor
  · cases ws with
    | nil => simp [pascalCase]
    | cons word ws =>
      have hword := hne word List.mem_cons_self
      rw [List.flatten_cons, List.head?_append_of_ne_nil _ hword] at hhead
      rw [pascalCase, List.flatMap_cons,
        List.head?_append_of_ne_nil _ (capitalizedWord_ne_nil hword)]
      exact isSolid_head_capitalizedWord hword hhead
  · rcases List.eq_nil_or_concat' ws with rfl | ⟨front, word, rfl⟩
    · simp [pascalCase]
    · have hword := hne word (by simp)
      rw [List.flatten_append, List.flatten_singleton, List.getLast?_append_of_ne_nil _ hword]
        at hlast
      rw [pascalCase, List.flatMap_append, List.flatMap_singleton,
        List.getLast?_append_of_ne_nil _ (capitalizedWord_ne_nil hword)]
      exact isSolid_getLast_capitalizedWord hword hlast

/-! ### Type identifiers -/

/-- A type identifier is the fixed word, capitalized words, or both. -/
theorem toList_entityName (raw : String) :
    ∃ front, (front = [] ∨ front = "Entity".toList) ∧
      (entityName raw).toList = front ++ pascalCase (words raw.toList) ∧
      (entityName raw).toList ≠ [] := by
  rw [entityName]
  split
  · next hnone => exact ⟨"Entity".toList, .inr rfl, by simp [hnone, pascalCase], by decide⟩
  · next word others hwords =>
    have hword := ne_nil_of_mem_words (show word ∈ words raw.toList by simp [hwords])
    have hne : pascalCase (word :: others) ≠ [] := by
      simp [pascalCase, capitalizedWord_ne_nil hword]
    dsimp only
    split_ifs
    · exact ⟨"Entity".toList, .inr rfl, by simp [hwords], by simp⟩
    · exact ⟨[], .inl rfl, by simp [hwords], by simpa using hne⟩

/-- All characters of a type identifier are plain. -/
theorem isPlain_of_mem_entityName (raw : String) :
    ∀ c ∈ (entityName raw).toList, isPlain c = true := by
  have hfixed : "Entity".toList.all isPlain = true := by decide
  obtain ⟨front, hfront, hlist, -⟩ := toList_entityName raw
  intro c hc
  rw [hlist] at hc
  rcases List.mem_append.mp hc with hc | hc
  · rcases hfront with rfl | rfl
    · cases hc
    · exact List.all_eq_true.mp hfixed c hc
  · obtain ⟨word, hword, hc⟩ := List.mem_flatMap.mp hc
    exact isPlain_of_mem_capitalizedWord (isPlain_of_mem_words hword) c hc

theorem entityName_ne_empty (raw : String) : entityName raw ≠ "" := by
  obtain ⟨-, -, -, hne⟩ := toList_entityName raw
  simpa using hne

/-- A type identifier has no white space at its ends. -/
theorem trim_entityName (raw : String) : Text.trim (entityName raw) = entityName raw := by
  have hfixed : SolidEnds "Entity".toList := .of_all (by decide)
  have hpascal := solidEnds_pascalCase (fun _ => ne_nil_of_mem_words) (solidEnds_words raw.toList)
  obtain ⟨front, hfront, hlist, -⟩ := toList_entityName raw
  have hends : SolidEnds (entityName raw).toList := by
    rw [hlist]
    rcases hfront with rfl | rfl
    · exact hpascal
    · exact hfixed.append hpascal
  rw [Text.trim, Text.trimChars_of_forall_not, String.ofList_toList]
  · exact fun c hc => by simp [Unicode.not_isWhiteSpace_of_isSolid (hends.head c hc)]
  · exact fun c hc => by simp [Unicode.not_isWhiteSpace_of_isSolid (hends.last c hc)]

end Naming

end Scaffold

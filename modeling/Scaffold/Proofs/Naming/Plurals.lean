import Scaffold.Proofs.Text.Lowercase

/-!
# Plurals of field identifiers

The plural of a field identifier still has the form of one: it only loses a final y and gains small
letters at its end, so its start and its characters stay what they are. It can become a reserved
word, though, since the words were avoided before the plural was taken. That happens to three field
identifiers. A reserved word that is a plural ends with s, and of the five such words one is the
plural of a reserved word, and one, which ends with two of them, is no plural at all.

A plural does not tell what it is the plural of: *buses* is that of *bus* and of *buse*, and
*cities* that of *city* and of *citie*. These are the only two ways in which the rules take two
texts in lower case to one plural. The name under which an entity is addressed is a plural in lower
case, which is the plural of a lower case, so that two entities share it exactly if their field
names agree but for case or are related in one of the two ways.

## Main definitions

* `Naming.EndsInConsonantY`, `Naming.EndsInSibilant`: the endings the rules for plurals look for.
* `Naming.Respelled`: two texts that the rules take to one plural.
* `Naming.singular`: what the resource name of an entity is the plural of.

## Main results

* `Naming.plural_mem_reservedWords_iff`: the texts whose plural is a reserved word.
* `Naming.IsIdentifier.plural`: the plural of a field identifier has the form of one.
* `Naming.isFieldIdentifier_plural_iff`: when it is one.
* `Naming.pluralChars_eq_iff`: when two texts in lower case have one plural.
* `Naming.resourceName_eq_iff`: when two entities have one resource name.
-/

namespace Scaffold.Naming

/-! ### Plurals and reserved words -/

/-- The three things that happen at the end of a text. -/
theorem pluralChars_cases {s : List Char} (hs : s ≠ []) :
    pluralChars s = s.dropLast ++ ['i', 'e', 's'] ∨ pluralChars s = s ++ ['e', 's'] ∨
      pluralChars s = s ++ ['s'] := by
  rw [pluralChars]
  split
  case h_1 hnone => exact absurd (by simpa using hnone) hs
  case h_2 => exact .inl rfl
  case h_3 =>
    split_ifs
    · exact .inr (.inr rfl)
    · exact .inl rfl
  case h_9 => exact .inr (.inr rfl)
  -- the sibilants
  all_goals exact .inr (.inl rfl)

/-- A reserved word with the suffix s behind another text ends with it. -/
theorem mem_of_append_s_mem_reservedWords {s : List Char}
    (h : String.ofList (s ++ ['s']) ∈ reservedWords) :
    String.ofList s ∈ ["clas", "extend", "implement", "thi", "throw"] := by
  have hall : ∀ word ∈ reservedWords, word.toList.getLast? = some 's' →
      String.ofList word.toList.dropLast ∈ ["clas", "extend", "implement", "thi", "throw"] := by
    decide
  simpa using hall _ h (by simp)

/-- The plural is a reserved word for four texts, one of which is itself a reserved word. -/
theorem plural_mem_reservedWords_iff (field : String) :
    plural field ∈ reservedWords ↔ field ∈ ["extend", "implement", "thi", "throw"] := by
  constructor
  · intro h
    have hes : ∀ word ∈ reservedWords, ¬ ['e', 's'] <:+ word.toList := by decide
    rw [plural] at h
    by_cases hne : field.toList = []
    · rw [hne] at h
      exact absurd h (by decide)
    · rcases pluralChars_cases hne with hplural | hplural | hplural
      · refine absurd ?_ (hes _ h)
        rw [hplural, String.toList_ofList]
        exact ⟨field.toList.dropLast ++ ['i'], by simp⟩
      · refine absurd ?_ (hes _ h)
        rw [hplural, String.toList_ofList]
        exact ⟨field.toList, rfl⟩
      · have hmem := mem_of_append_s_mem_reservedWords (hplural ▸ h)
        rw [String.ofList_toList, List.mem_cons] at hmem
        rcases hmem with rfl | hmem
        · exact absurd h (by decide)
        · exact hmem
  · have hall : ∀ word ∈ ["extend", "implement", "thi", "throw"], plural word ∈ reservedWords := by
      decide
    exact hall field

/-- The plural of a field identifier has the form of one. -/
theorem IsIdentifier.plural {field : String} (h : IsIdentifier Char.isLower field) :
    IsIdentifier Char.isLower (Naming.plural field) := by
  have hlist : field.toList ≠ [] := by simpa using h.1
  have happend : ∀ suffix : List Char, (∀ c ∈ suffix, c.isAlphanum = true) →
      IsIdentifier Char.isLower (String.ofList (field.toList ++ suffix)) := by
    intro suffix hsuffix
    rw [String.ofList_append, String.ofList_toList]
    exact h.append (by simpa using hsuffix)
  rw [Naming.plural]
  rcases pluralChars_cases hlist with hplural | hplural | hplural <;> rw [hplural]
  · obtain ⟨c, rest, hcons⟩ := List.exists_cons_of_ne_nil hlist
    obtain ⟨-, halphanum, hstart⟩ := h
    rw [hcons, List.all_eq_true] at halphanum
    rw [hcons] at hstart ⊢
    cases rest with
    -- the y was all there was, and the suffix starts with a small letter itself
    | nil => exact (by decide : IsIdentifier Char.isLower "ies")
    | cons d rest =>
      have hall : ∀ e ∈ (c :: d :: rest).dropLast ++ ['i', 'e', 's'], e.isAlphanum = true := by
        rw [List.forall_mem_append]
        exact ⟨fun e he => halphanum e (List.dropLast_subset _ he), List.all_eq_true.mp rfl⟩
      exact isIdentifier_ofList_cons hstart hall
  · exact happend _ (List.all_eq_true.mp rfl)
  · exact happend _ (List.all_eq_true.mp rfl)

/-- The plural of a field identifier is a field identifier unless it is one of three. -/
theorem isFieldIdentifier_plural_iff {field : String} (h : IsFieldIdentifier field) :
    IsFieldIdentifier (plural field) ↔ field ∉ ["extend", "implement", "thi"] := by
  have hthrow : field ≠ "throw" := by
    rintro rfl
    exact h.2 (by decide)
  rw [IsFieldIdentifier, and_iff_right h.1.plural, plural_mem_reservedWords_iff]
  simp [hthrow]

/-! ### Endings -/

/-- A text that ends, but for case, in a y behind anything but a vowel. -/
def EndsInConsonantY (s : List Char) : Prop :=
  ['y'] <:+ s.map Char.toLower ∧
    ∀ v ∈ ['a', 'e', 'i', 'o', 'u'], ¬ [v, 'y'] <:+ s.map Char.toLower

/-- The spellings of a final sibilant. -/
def sibilants : List (List Char) :=
  [['s'], ['x'], ['z'], ['c', 'h'], ['s', 'h']]

/-- A text that ends, but for case, in a sibilant. -/
def EndsInSibilant (s : List Char) : Prop :=
  ∃ ending ∈ sibilants, ending <:+ s.map Char.toLower

variable {s t : List Char} {c : Char}

instance (s : List Char) : Decidable (EndsInConsonantY s) :=
  @instDecidableAnd _ _ _ (List.decidableBAll _ _)

/-- The rules for plurals, by the ending of the text. -/
theorem pluralChars_rules (hs : s ≠ []) :
    EndsInConsonantY s ∧ ¬ EndsInSibilant s ∧ pluralChars s = s.dropLast ++ ['i', 'e', 's'] ∨
      ¬ EndsInConsonantY s ∧ EndsInSibilant s ∧ pluralChars s = s ++ ['e', 's'] ∨
      ¬ EndsInConsonantY s ∧ ¬ EndsInSibilant s ∧ pluralChars s = s ++ ['s'] := by
  have hsuffix : ∀ ending : List Char, ending <:+ s.map Char.toLower ↔
      ending.reverse <+: (s.map Char.toLower).reverse := fun _ => List.reverse_prefix.symm
  have hne : (s.map Char.toLower).reverse ≠ [] := by simpa using hs
  simp only [EndsInConsonantY, EndsInSibilant, sibilants, hsuffix, pluralChars]
  generalize (s.map Char.toLower).reverse = r at hne
  split
  case h_1 => exact absurd rfl hne
  case h_3 _ before _ =>
    split_ifs with hvowel
    · refine .inr (.inr ⟨?_, by simp, rfl⟩)
      rintro ⟨-, hno⟩
      exact hno before (by simpa [isVowel, or_assoc] using hvowel) (by simp)
    · refine .inl ⟨⟨by simp, fun v hv hprefix => hvowel ?_⟩, by simp, rfl⟩
      obtain rfl : v = before := by simpa using hprefix
      simpa [isVowel, or_assoc] using hv
  case h_9 _ _ hy hcluster hs hx hz hch hsh =>
    refine .inr (.inr ⟨?_, ?_, rfl⟩)
    · rintro ⟨⟨rest, rfl⟩, -⟩
      cases rest with
      | nil => exact hy rfl
      | cons before rest => exact hcluster before rest rfl
    · simp only [List.mem_cons, List.not_mem_nil, or_false]
      rintro ⟨ending, rfl | rfl | rfl | rfl | rfl, rest, rfl⟩
      · exact hs rest rfl
      · exact hx rest rfl
      · exact hz rest rfl
      · exact hch rest rfl
      · exact hsh rest rfl
  -- the endings that are spelled out
  all_goals simp

theorem EndsInConsonantY.ne_nil (h : EndsInConsonantY s) : s ≠ [] := by
  rintro rfl
  exact absurd h.1 (by decide)

theorem EndsInSibilant.ne_nil (h : EndsInSibilant s) : s ≠ [] := by
  rintro rfl
  exact absurd h (by simp [EndsInSibilant, sibilants])

theorem pluralChars_of_endsInConsonantY (h : EndsInConsonantY s) :
    pluralChars s = s.dropLast ++ ['i', 'e', 's'] := by
  rcases pluralChars_rules h.ne_nil with ⟨-, -, hplural⟩ | ⟨hy, -, -⟩ | ⟨hy, -, -⟩
  · exact hplural
  · exact absurd h hy
  · exact absurd h hy

theorem pluralChars_of_endsInSibilant (h : EndsInSibilant s) :
    pluralChars s = s ++ ['e', 's'] := by
  rcases pluralChars_rules h.ne_nil with ⟨-, hsibilant, -⟩ | ⟨-, -, hplural⟩ | ⟨-, hsibilant, -⟩
  · exact absurd h hsibilant
  · exact hplural
  · exact absurd h hsibilant

theorem pluralChars_of_not (hs : s ≠ []) (hy : ¬ EndsInConsonantY s)
    (hsibilant : ¬ EndsInSibilant s) : pluralChars s = s ++ ['s'] := by
  rcases pluralChars_rules hs with ⟨h, -, -⟩ | ⟨-, h, -⟩ | ⟨-, -, hplural⟩
  · exact absurd h hy
  · exact absurd h hsibilant
  · exact hplural

theorem EndsInConsonantY.toLower_eq (h : EndsInConsonantY (s ++ [c])) : c.toLower = 'y' := by
  obtain ⟨front, hfront⟩ := h.1
  rw [List.map_append, List.map_singleton] at hfront
  exact (List.singleton_inj.mp (List.append_inj_right' hfront rfl)).symm

theorem EndsInSibilant.toLower_mem (h : EndsInSibilant (s ++ [c])) :
    c.toLower ∈ ['s', 'x', 'z', 'h'] := by
  obtain ⟨ending, hmem, hsuffix⟩ := h
  have hlast : ∀ ending ∈ sibilants,
      (ending.getLast?.any fun d => d ∈ ['s', 'x', 'z', 'h']) = true := by
    decide
  have hending := hlast ending hmem
  rw [List.map_append, List.map_singleton, List.suffix_concat_iff] at hsuffix
  rcases hsuffix with rfl | ⟨front, rfl, -⟩
  · cases hending
  · rwa [List.getLast?_concat, Option.any_some, decide_eq_true_eq] at hending

/-- A text that ends in a character takes s unless the character is one the rules look at. -/
theorem pluralChars_concat (h : c.toLower ∉ ['y', 's', 'x', 'z', 'h']) :
    pluralChars (s ++ [c]) = s ++ [c, 's'] := by
  rw [pluralChars_of_not (by simp), List.append_assoc, List.singleton_append]
  · intro hy
    exact h (hy.toLower_eq ▸ List.mem_cons_self)
  · intro hsibilant
    exact h (List.mem_cons_of_mem _ hsibilant.toLower_mem)

/-! ### Two texts with one plural -/

/-- Two texts that the rules take to one plural: the second is the first with an e behind a
sibilant, or with ie in place of a final y. -/
inductive Respelled : List Char → List Char → Prop
  | e {s : List Char} (h : EndsInSibilant s) : Respelled s (s ++ ['e'])
  | ie {s : List Char} (h : EndsInConsonantY (s ++ ['y'])) :
      Respelled (s ++ ['y']) (s ++ ['i', 'e'])

theorem Respelled.pluralChars_eq (h : Respelled s t) : pluralChars s = pluralChars t := by
  cases h with
  | e h => rw [pluralChars_of_endsInSibilant h, pluralChars_concat (by decide)]
  | @ie front h =>
    rw [pluralChars_of_endsInConsonantY h, List.dropLast_concat,
      show front ++ ['i', 'e'] = front ++ ['i'] ++ ['e'] by simp, pluralChars_concat (by decide),
      List.append_assoc, List.singleton_append]

/-- A text in lower case that ends in y behind a consonant shares its plural with itself and with
the text that has ie in its place. -/
theorem eq_or_respelled_of_endsInConsonantY (hs : s.map Char.toLower = s)
    (ht : t.map Char.toLower = t) (hne : t ≠ []) (hy : EndsInConsonantY s)
    (h : pluralChars s = pluralChars t) : s = t ∨ Respelled s t := by
  obtain ⟨front, rfl⟩ := hs ▸ hy.1
  rw [pluralChars_of_endsInConsonantY hy, List.dropLast_concat] at h
  rcases pluralChars_rules hne with ⟨hy', -, hplural⟩ | ⟨-, hsibilant, hplural⟩ | ⟨-, -, hplural⟩
  · obtain ⟨front', rfl⟩ := ht ▸ hy'.1
    rw [hplural, List.dropLast_concat, List.append_cancel_right_eq] at h
    exact .inl (h ▸ rfl)
  · rw [hplural, show front ++ ['i', 'e', 's'] = front ++ ['i'] ++ ['e', 's'] by simp,
      List.append_cancel_right_eq] at h
    subst h
    exact absurd hsibilant.toLower_mem (by decide)
  · rw [hplural, show front ++ ['i', 'e', 's'] = front ++ ['i', 'e'] ++ ['s'] by simp,
      List.append_cancel_right_eq] at h
    exact .inr (h ▸ .ie hy)

/-- A text that ends in a sibilant shares its plural with itself and with the text that has an e
behind it. -/
theorem eq_or_respelled_of_endsInSibilant (hne : t ≠ []) (hy : ¬ EndsInConsonantY t)
    (hsibilant : EndsInSibilant s) (h : pluralChars s = pluralChars t) :
    s = t ∨ Respelled s t := by
  rw [pluralChars_of_endsInSibilant hsibilant] at h
  rcases pluralChars_rules hne with ⟨hy', -, -⟩ | ⟨-, -, hplural⟩ | ⟨-, -, hplural⟩
  · exact absurd hy' hy
  · rw [hplural, List.append_cancel_right_eq] at h
    exact .inl h
  · rw [hplural, show s ++ ['e', 's'] = s ++ ['e'] ++ ['s'] by simp,
      List.append_cancel_right_eq] at h
    exact .inr (h ▸ .e hsibilant)

/-- Two texts in lower case have one plural if and only if they are the same or the rules take them
to one plural. -/
theorem pluralChars_eq_iff (hs : s.map Char.toLower = s) (hsne : s ≠ [])
    (ht : t.map Char.toLower = t) (htne : t ≠ []) :
    pluralChars s = pluralChars t ↔ s = t ∨ Respelled s t ∨ Respelled t s := by
  constructor
  · intro h
    have hswap : (t = s ∨ Respelled t s) → s = t ∨ Respelled s t ∨ Respelled t s :=
      Or.imp Eq.symm .inr
    by_cases hys : EndsInConsonantY s
    · exact (eq_or_respelled_of_endsInConsonantY hs ht htne hys h).imp_right .inl
    by_cases hyt : EndsInConsonantY t
    · exact hswap (eq_or_respelled_of_endsInConsonantY ht hs hsne hyt h.symm)
    by_cases hsibilant : EndsInSibilant s
    · exact (eq_or_respelled_of_endsInSibilant htne hyt hsibilant h).imp_right .inl
    by_cases hsibilant' : EndsInSibilant t
    · exact hswap (eq_or_respelled_of_endsInSibilant hsne hys hsibilant' h.symm)
    rw [pluralChars_of_not hsne hys hsibilant, pluralChars_of_not htne hyt hsibilant'] at h
    exact .inl (List.append_cancel_right h)
  · rintro (rfl | h | h)
    · rfl
    · exact h.pluralChars_eq
    · exact h.pluralChars_eq.symm

/-! ### The lower case of a plural -/

theorem endsInConsonantY_stem_iff : EndsInConsonantY (Text.stem s) ↔ EndsInConsonantY s := by
  have hending : (['a', 'e', 'i', 'o', 'u'].all fun v =>
      [v, 'y'].all fun x => x.isLower && x != 'k') = true := by decide
  rw [List.all_eq_true] at hending
  rw [EndsInConsonantY, EndsInConsonantY, Text.map_toLower_stem, Text.suffix_stem_iff (by decide)]
  refine and_congr_right' (forall₂_congr fun v hv => not_congr ?_)
  exact Text.suffix_stem_iff (hending v hv) s

theorem endsInSibilant_stem_iff : EndsInSibilant (Text.stem s) ↔ EndsInSibilant s := by
  have hending : ∀ ending ∈ sibilants, (ending.all fun x => x.isLower && x != 'k') = true := by
    decide
  rw [EndsInSibilant, EndsInSibilant, Text.map_toLower_stem]
  exact exists_congr fun ending =>
    and_congr_right fun hmem => Text.suffix_stem_iff (hending ending hmem) s

/-- The lower case of a plural is the plural of the lower case. -/
theorem lowercaseChars_pluralChars (hs : s ≠ []) :
    Text.lowercaseChars (pluralChars s) = pluralChars (Text.stem s) := by
  have hstem := Text.stem_ne_nil hs
  rcases pluralChars_rules hs with
    ⟨hy, -, hplural⟩ | ⟨-, hsibilant, hplural⟩ | ⟨hy, hsibilant, hplural⟩
  · obtain ⟨front, c, rfl⟩ : ∃ front c, s = front ++ [c] :=
      ⟨_, _, (List.dropLast_append_getLast hs).symm⟩
    have hc : c.isAlpha = true := by
      rw [← Bool.not_eq_false]
      intro hnot
      have hlower := Unicode.not_isLower_toLower hnot
      rw [hy.toLower_eq] at hlower
      cases hlower
    rw [hplural, pluralChars_of_endsInConsonantY (endsInConsonantY_stem_iff.mpr hy),
      Text.stem_concat hc, List.dropLast_concat, List.dropLast_concat,
      Text.lowercaseChars_append (by simp) (by decide)]
  · rw [hplural, pluralChars_of_endsInSibilant (endsInSibilant_stem_iff.mpr hsibilant),
      Text.lowercaseChars_append (by simp) (by decide)]
  · rw [hplural, pluralChars_of_not hstem (mt endsInConsonantY_stem_iff.mp hy)
      (mt endsInSibilant_stem_iff.mp hsibilant), Text.lowercaseChars_append (by simp) (by decide)]

/-! ### Resource names -/

theorem toList_fieldName_ne_nil (raw : String) : (fieldName raw).toList ≠ [] := by
  rw [fieldName]
  split
  · decide
  next word others hwords =>
    have hword : word ≠ [] := ne_nil_of_mem_words (show word ∈ words raw.toList by simp [hwords])
    have hname : camelCase (word :: others) ≠ [] :=
      List.append_ne_nil_of_left_ne_nil (Text.lowercaseAfter_ne_nil hword) _
    dsimp only
    split_ifs <;> simp [hname]

/-- The field name of an entity in lower case, as it is in front of more letters. -/
def singular (entity : String) : List Char :=
  Text.stem (fieldName entity).toList

theorem map_toLower_singular (entity : String) :
    (singular entity).map Char.toLower = singular entity :=
  Text.map_toLower_stem _

theorem singular_ne_nil (entity : String) : singular entity ≠ [] :=
  Text.stem_ne_nil (toList_fieldName_ne_nil entity)

/-- The name under which an entity is addressed is a plural. -/
theorem toList_resourceName (entity : String) :
    (resourceName entity).toList = pluralChars (singular entity) := by
  rw [resourceName, Text.lowercase, plural, String.toList_ofList, String.toList_ofList,
    lowercaseChars_pluralChars (toList_fieldName_ne_nil entity), singular]

/-- Two entities are addressed under one name if and only if they have one singular, or the rules
take the singular of one to the plural of the other. -/
theorem resourceName_eq_iff (a b : String) :
    resourceName a = resourceName b ↔
      singular a = singular b ∨ Respelled (singular a) (singular b) ∨
        Respelled (singular b) (singular a) := by
  rw [← String.toList_inj, toList_resourceName, toList_resourceName]
  exact pluralChars_eq_iff (map_toLower_singular a) (singular_ne_nil a) (map_toLower_singular b)
    (singular_ne_nil b)

end Scaffold.Naming

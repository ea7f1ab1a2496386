import Mathlib.Data.List.Chain
import Scaffold.Proofs.Naming.Accessors

/-!
# Words of one letter

A type identifier is a name again, and its type identifier should be the same. For this its words
have to be found again, and the only sign of where a capitalized word starts is its capital letter.
Two words of one letter that stand next to each other leave two capital letters, which are read as
one word: `A/B test` gives `ABTest`, and that gives `AbTest`. A digit on either side keeps two words
apart, and so does a second letter.

Cutting a run into words and capitalizing them changes the case of its characters and nothing else,
and the case of a character depends on its neighbours only. So the type identifier of a run is found
in one scan (`Naming.recased`), and that scan is what is compared with the capitalized words.

## Main definitions

* `Naming.runWords`: the words of a run of letters and digits.
* `Naming.isInitial`, `Naming.InitialsApart`: words of one letter, and that no two of them are
  neighbours.
* `Naming.recased`: a run with the case of every character set by its neighbours.

## Main results

* `Naming.pascalCase_runWords`: a run is cut and capitalized in one scan.
* `Naming.recased_pascalCase_iff`: when capitalized words are found again.
* `Naming.entityName_entityName_iff`: when the type identifier of a type identifier is the same.
-/

namespace Scaffold

namespace Unicode

variable {c : Char}

/-- What a letter or digit is, and what a change of case does to it, decided for all of them at
once. -/
theorem isAlphanum_facts (h : c.isAlphanum = true) :
    ((Naming.isUpperLetter [c] = c.isUpper ∧ Naming.isLowerLetter [c] = c.isLower) ∧
      ((c.isUpper = true ∧ c.isLower = false ∧ c.isDigit = false) ∨
        (c.isUpper = false ∧ c.isLower = true ∧ c.isDigit = false) ∨
        (c.isUpper = false ∧ c.isLower = false ∧ c.isDigit = true))) ∧
    (c.toUpper.isUpper = c.isAlpha ∧ c.toUpper.isLower = false ∧ c.toUpper.toUpper = c.toUpper) ∧
    (c.toLower.isLower = c.isAlpha ∧ c.toLower.isUpper = false ∧ c.toLower.toLower = c.toLower) ∧
    (c.toLower = c ↔ c.isUpper = false) :=
  forall_isAlphanum h (by decide +kernel)

/-- For the letters and digits of ASCII the two kinds of letters with case are the known ones. -/
theorem isCaseLetter_eq (h : c.isAlphanum = true) :
    Naming.isUpperLetter [c] = c.isUpper ∧ Naming.isLowerLetter [c] = c.isLower :=
  (isAlphanum_facts h).1.1

/-- A letter or digit is of one of three kinds. -/
theorem isAlphanum_kinds (h : c.isAlphanum = true) :
    (c.isUpper = true ∧ c.isLower = false ∧ c.isDigit = false) ∨
      (c.isUpper = false ∧ c.isLower = true ∧ c.isDigit = false) ∨
      (c.isUpper = false ∧ c.isLower = false ∧ c.isDigit = true) :=
  (isAlphanum_facts h).1.2

/-- In upper case a letter is a capital one, and a digit is none. -/
theorem isUpper_toUpper_eq (h : c.isAlphanum = true) :
    c.toUpper.isUpper = c.isAlpha ∧ c.toUpper.isLower = false ∧ c.toUpper.toUpper = c.toUpper :=
  (isAlphanum_facts h).2.1

/-- In lower case a letter is a small one, and a digit is none. -/
theorem isLower_toLower_eq (h : c.isAlphanum = true) :
    c.toLower.isLower = c.isAlpha ∧ c.toLower.isUpper = false ∧ c.toLower.toLower = c.toLower :=
  (isAlphanum_facts h).2.2.1

/-- Only capital letters differ from their lower case. -/
theorem toLower_eq_self_iff (h : c.isAlphanum = true) : c.toLower = c ↔ c.isUpper = false :=
  (isAlphanum_facts h).2.2.2

end Unicode

namespace Naming

/-! ### Words -/

/-- A word of one letter. -/
def isInitial : List Char → Bool
  | [c] => c.isAlpha
  | _ => false

/-- No two words of one letter stand next to each other. -/
def InitialsApart (ws : List (List Char)) : Prop :=
  ws.IsChain fun u v => ¬ (isInitial u = true ∧ isInitial v = true)

instance (ws : List (List Char)) : Decidable (InitialsApart ws) :=
  inferInstanceAs (Decidable (ws.IsChain _))

/-- A word of one kind: letters of ASCII, or digits. -/
def IsPure (word : List Char) : Prop :=
  (∀ c ∈ word, c.isAlpha = true) ∨ ∀ c ∈ word, c.isDigit = true

/-! ### Runs -/

/-- The words of a run of letters and digits. -/
def runWords (run : List Char) : List (List Char) :=
  cutWords (run.map fun c => [c])

/-- Whether a word of such a run ends between two neighbouring characters, given the character
behind them. -/
def endsBetween (a b : Char) (next : Option Char) : Bool :=
  wordEndsBetween [a] [b] (next.map fun c => [c])

/-- In ASCII a word ends between a letter and a digit, between a small and a capital letter, and
between two capitals in front of a small one. -/
theorem endsBetween_of_isAlphanum {a b : Char} (ha : a.isAlphanum = true)
    (hb : b.isAlphanum = true) (next : Option Char) :
    endsBetween a b next =
      ((a.isDigit != b.isDigit) || (a.isLower && b.isUpper) ||
        (a.isUpper && b.isUpper && next.any (isLowerLetter [·]))) := by
  obtain ⟨hupper, hlower⟩ := Unicode.isCaseLetter_eq ha
  obtain ⟨hupper', hlower'⟩ := Unicode.isCaseLetter_eq hb
  have hdigit : ∀ c : Char, isDigit [c] = c.isDigit := fun c => by simp [isDigit]
  rw [endsBetween, wordEndsBetween, hupper, hlower, hupper', hlower', hdigit, hdigit,
    Option.any_map]
  rcases Unicode.isAlphanum_kinds ha with ⟨hu, hl, hd⟩ | ⟨hu, hl, hd⟩ | ⟨hu, hl, hd⟩ <;>
    rcases Unicode.isAlphanum_kinds hb with ⟨hu', hl', hd'⟩ | ⟨hu', hl', hd'⟩ | ⟨hu', hl', hd'⟩ <;>
      simp [hu, hl, hd, hu', hl', hd']

theorem ne_space_of_isAlphanum {c : Char} (h : c.isAlphanum = true) : [c] ≠ [' '] := by
  rintro ⟨⟩
  exact absurd h (by decide)

/-- A character joins the word behind it, or is a word of its own. -/
theorem runWords_cons_cons {a b : Char} (ha : a.isAlphanum = true) {rest word : List Char}
    {ws : List (List Char)} (h : runWords (b :: rest) = word :: ws) :
    runWords (a :: b :: rest) =
      if endsBetween a b rest.head? then [a] :: word :: ws else (a :: word) :: ws := by
  rw [runWords] at h
  rw [runWords, List.map_cons, cutWords, if_neg (ne_space_of_isAlphanum ha), h]
  dsimp only
  rw [List.map_cons, wordEndsAfter, List.head?_map, endsBetween]
  rfl

theorem runWords_singleton {a : Char} (ha : a.isAlphanum = true) : runWords [a] = [[a]] := by
  rw [runWords, List.map_singleton, cutWords, if_neg (ne_space_of_isAlphanum ha)]
  rfl

/-- The words of a run start with its first character. -/
theorem exists_runWords_cons {c : Char} (hc : c.isAlphanum = true) (rest : List Char) :
    ∃ word ws, runWords (c :: rest) = (c :: word) :: ws := by
  cases rest with
  | nil => exact ⟨[], [], runWords_singleton hc⟩
  | cons b rest =>
    have hne : runWords (b :: rest) ≠ [] := cutWords_ne_nil _
    obtain ⟨word, ws, hcut⟩ := List.exists_cons_of_ne_nil hne
    rw [runWords_cons_cons hc hcut]
    split_ifs
    · exact ⟨[], word :: ws, rfl⟩
    · exact ⟨word, ws, rfl⟩

theorem flatten_runWords {run : List Char} (h : ∀ c ∈ run, c.isAlphanum = true) :
    (runWords run).flatten = run := by
  have hfilter : (run.map fun c => [c]).filter (fun a => a != [' ']) = run.map fun c => [c] := by
    rw [List.filter_eq_self, List.forall_mem_map]
    exact fun c hc => by simpa using ne_space_of_isAlphanum (h c hc)
  rw [runWords, flatten_cutWords, hfilter, ← List.flatMap_def, List.flatMap_singleton']

theorem isPure_of_mem_runWords {s : List Char} (hs : ∀ c ∈ s, c.isAlphanum = true) :
    ∀ word ∈ runWords s, IsPure word := by
  have hsingle {c : Char} (hc : c.isAlphanum = true) : IsPure [c] := by
    simpa [IsPure, Char.isAlphanum] using hc
  induction s with
  | nil => simp [runWords, cutWords, IsPure]
  | cons a s ih =>
    obtain ⟨ha, hs⟩ := List.forall_mem_cons.mp hs
    cases s with
    | nil => simpa [runWords_singleton ha] using hsingle ha
    | cons b rest =>
      obtain ⟨hb, -⟩ := List.forall_mem_cons.mp hs
      obtain ⟨word, ws, hcut⟩ := exists_runWords_cons hb rest
      have ih := ih hs
      rw [hcut] at ih
      rw [runWords_cons_cons ha hcut]
      obtain ⟨hword, hws⟩ := List.forall_mem_cons.mp ih
      split_ifs with hends
      · exact List.forall_mem_cons.mpr ⟨hsingle ha, ih⟩
      · -- where no word ends, the two characters are of one kind
        have hkind : a.isDigit = b.isDigit := by
          rw [endsBetween_of_isAlphanum ha hb] at hends
          simp only [Bool.or_eq_true, not_or, bne_iff_ne, ne_eq, not_not] at hends
          exact hends.1.1
        refine List.forall_mem_cons.mpr ⟨hword.imp (fun h => ?_) fun h => ?_, hws⟩
        · have hletter := h b List.mem_cons_self
          rw [Unicode.isAlpha_eq_not_isDigit hb, ← hkind, ← Unicode.isAlpha_eq_not_isDigit ha]
            at hletter
          exact List.forall_mem_cons.mpr ⟨hletter, h⟩
        · exact List.forall_mem_cons.mpr ⟨hkind ▸ h b List.mem_cons_self, h⟩

/-! ### A run in one scan -/

/-- A run, behind some character or none, with every character in the case that it gets when the
words are capitalized: upper case where a word starts, lower case elsewhere. -/
def recased : Option Char → List Char → List Char
  | _, [] => []
  | before, b :: rest =>
    (if before.all (endsBetween · b rest.head?) then b.toUpper else b.toLower) ::
      recased (some b) rest

theorem pascalCase_cons_of_isAlphanum {c : Char} {word : List Char} (ws : List (List Char))
    (h : ∀ d ∈ c :: word, d.isAlphanum = true) :
    pascalCase ((c :: word) :: ws) = c.toUpper :: (word.map Char.toLower ++ pascalCase ws) := by
  rw [pascalCase, List.flatMap_cons, capitalizedWord_of_isAlphanum h, List.cons_append]
  rfl

/-- The first character of a run is in upper case. Those behind it are as in the run without it, but
the next one is in upper case only if a word starts with it. -/
theorem pascalCase_runWords_cons {a : Char} {s : List Char}
    (hs : ∀ c ∈ a :: s, c.isAlphanum = true) :
    pascalCase (runWords (a :: s)) = a.toUpper :: recased (some a) s := by
  induction s generalizing a with
  | nil =>
    rw [runWords_singleton (hs a List.mem_cons_self), pascalCase_cons_of_isAlphanum [] hs]
    rfl
  | cons b rest ih =>
    obtain ⟨ha, hrest⟩ := List.forall_mem_cons.mp hs
    have ih := ih hrest
    obtain ⟨word, ws, hcut⟩ := exists_runWords_cons (hrest b List.mem_cons_self) rest
    have hword : ∀ c ∈ b :: word, c.isAlphanum = true := by
      intro c hc
      rw [← flatten_runWords hrest, hcut] at hrest
      exact hrest c (List.mem_append_left _ hc)
    rw [runWords_cons_cons ha hcut, recased, Option.all_some]
    rw [hcut, pascalCase_cons_of_isAlphanum ws hword] at ih
    split_ifs with hends
    · rw [pascalCase_cons_of_isAlphanum _ (by simpa using ha),
        pascalCase_cons_of_isAlphanum ws hword, ih]
      rfl
    · rw [pascalCase_cons_of_isAlphanum ws (List.forall_mem_cons.mpr ⟨ha, hword⟩), List.map_cons,
        List.cons_append, (List.cons.inj ih).2]

/-- A run is cut into words and these are capitalized, all in one scan. -/
theorem pascalCase_runWords {s : List Char} (hs : ∀ c ∈ s, c.isAlphanum = true) :
    pascalCase (runWords s) = recased none s := by
  cases s with
  | nil => rfl
  | cons a s => exact pascalCase_runWords_cons hs

/-- Characters of a run stay as they are if they are in small letters and no word starts with one of
them. -/
theorem recased_append {c : Char} {s : List Char} (tail : List Char)
    (hlower : ∀ b ∈ s, b.toLower = b)
    (hends : ∀ a ∈ c :: s, ∀ b ∈ s, ∀ next, endsBetween a b next = false) :
    recased (some c) (s ++ tail) = s ++ recased (some (s.getLastD c)) tail := by
  induction s generalizing c with
  | nil => rfl
  | cons b s ih =>
    obtain ⟨hb, hs⟩ := List.forall_mem_cons.mp hlower
    have hc := hends c List.mem_cons_self b List.mem_cons_self (s ++ tail).head?
    have ih := ih hs fun a ha d hd next =>
      hends a (List.mem_cons_of_mem c ha) d (List.mem_cons_of_mem b hd) next
    rw [List.cons_append, recased, Option.all_some, hc, ih, List.getLastD_cons]
    simp [hb]

/-! ### Capitalized words -/

section

variable {c : Char} {word : List Char}

theorem isInitial_cons (c : Char) (word : List Char) :
    isInitial (c :: word) = (c.isAlpha && word.isEmpty) := by
  cases word <;> simp [isInitial]

theorem IsPure.isAlphanum (h : IsPure word) : ∀ d ∈ word, d.isAlphanum = true := by
  intro d hd
  rcases h with h | h <;> simp [Char.isAlphanum, h d hd]

theorem IsPure.tail (h : IsPure (c :: word)) : IsPure word :=
  h.imp (fun h => (List.forall_mem_cons.mp h).2) fun h => (List.forall_mem_cons.mp h).2

theorem IsPure.isDigit_eq (h : IsPure (c :: word)) : ∀ d ∈ word, d.isDigit = c.isDigit := by
  intro d hd
  have halphanum := h.isAlphanum
  rcases h with h | h
  · have hkind : ∀ e ∈ c :: word, e.isDigit = false := fun e he => by
      simpa [h e he] using (Unicode.isAlpha_eq_not_isDigit (halphanum e he)).symm
    rw [hkind d (List.mem_cons_of_mem c hd), hkind c List.mem_cons_self]
  · rw [h d (List.mem_cons_of_mem c hd), h c List.mem_cons_self]

/-- The characters of a word in lower case are in lower case. -/
theorem IsPure.toLower_eq (h : IsPure word) : ∀ b ∈ word.map Char.toLower, b.toLower = b := by
  rw [List.forall_mem_map]
  exact fun d hd => (Unicode.isLower_toLower_eq (h.isAlphanum d hd)).2.2

/-- The characters of a capitalized word are all letters or all digits, as those of the word. -/
theorem IsPure.capitalized (h : IsPure (c :: word)) :
    ∀ a ∈ c.toUpper :: word.map Char.toLower, a.isAlphanum = true ∧ a.isDigit = c.isDigit := by
  obtain ⟨hc, hword⟩ := List.forall_mem_cons.mp h.isAlphanum
  rw [List.forall_mem_cons, List.forall_mem_map]
  refine ⟨⟨Unicode.isAlphanum_toUpper hc, (Unicode.isDigit_case hc).1⟩, fun d hd => ?_⟩
  exact ⟨Unicode.isAlphanum_toLower (hword d hd),
    (Unicode.isDigit_case (hword d hd)).2.trans (h.isDigit_eq d hd)⟩

/-- No word starts inside a capitalized word. -/
theorem IsPure.not_endsBetween (h : IsPure (c :: word)) :
    ∀ a ∈ c.toUpper :: word.map Char.toLower, ∀ b ∈ word.map Char.toLower, ∀ next,
      endsBetween a b next = false := by
  intro a ha b hb next
  obtain ⟨halphanum, hdigit⟩ := h.capitalized a ha
  obtain ⟨halphanum', hdigit'⟩ := h.capitalized b (List.mem_cons_of_mem _ hb)
  have hupper : b.isUpper = false :=
    (Unicode.toLower_eq_self_iff halphanum').mp (h.tail.toLower_eq b hb)
  rw [endsBetween_of_isAlphanum halphanum halphanum', hdigit, hdigit', hupper]
  simp

/-- A capitalized word ends with a capital letter exactly if it is one. -/
theorem IsPure.isUpper_getLastD (h : IsPure (c :: word)) :
    ((word.map Char.toLower).getLastD c.toUpper).isUpper = isInitial (c :: word) := by
  obtain ⟨hc, hword⟩ := List.forall_mem_cons.mp h.isAlphanum
  cases word with
  | nil => exact (Unicode.isUpper_toUpper_eq hc).1
  | cons d rest =>
    have hlast : (rest.map Char.toLower).getLastD d.toLower ∈ (d :: rest).map Char.toLower :=
      List.getLastD_mem_cons
    rw [List.mem_map] at hlast
    obtain ⟨e, he, heq⟩ := hlast
    rw [List.map_cons, List.getLastD_cons, ← heq, (Unicode.isLower_toLower_eq (hword e he)).2.1]
    rfl

/-- Behind the first letter of a word there is a small letter, unless the word ends there. -/
theorem IsPure.any_isLowerLetter_head? (h : IsPure (c :: word)) (hdigit : c.isDigit = false)
    {tail : List Char} (htail : tail.head?.any (isLowerLetter [·]) = false) :
    (word.map Char.toLower ++ tail).head?.any (isLowerLetter [·]) = !word.isEmpty := by
  cases word with
  | nil => exact htail
  | cons d rest =>
    have hd : d.isAlphanum = true := h.isAlphanum d (by simp)
    have hkind : d.isDigit = false := (h.isDigit_eq d List.mem_cons_self).trans hdigit
    rw [List.map_cons, List.cons_append, List.head?_cons, Option.any_some,
      (Unicode.isCaseLetter_eq (Unicode.isAlphanum_toLower hd)).2,
      (Unicode.isLower_toLower_eq hd).1, Unicode.isAlpha_eq_not_isDigit hd, hkind]
    rfl

/-- A capitalized word starts with a capital letter that is read as the start of a word, unless it
stands alone behind another capital letter. -/
theorem IsPure.endsBetween_iff (h : IsPure (c :: word)) {before : Option Char}
    (hbefore : ∀ a ∈ before, a.isAlphanum = true) {tail : List Char}
    (htail : tail.head?.any (isLowerLetter [·]) = false) :
    ((if before.all (endsBetween · c.toUpper (word.map Char.toLower ++ tail).head?)
      then c.toUpper.toUpper else c.toUpper.toLower) = c.toUpper) ↔
      (before.any Char.isUpper = true → ¬ isInitial (c :: word) = true) := by
  have hc := h.isAlphanum c List.mem_cons_self
  obtain ⟨hupper, -, hself⟩ := Unicode.isUpper_toUpper_eq hc
  have halphanum := Unicode.isAlphanum_toUpper hc
  have halpha := Unicode.isAlpha_eq_not_isDigit hc
  cases before with
  | none => simp [hself]
  | some a =>
    rw [Option.all_some, Option.any_some, endsBetween_of_isAlphanum (hbefore a rfl) halphanum,
      (Unicode.isDigit_case hc).1, hupper, hself, isInitial_cons]
    cases hdigit : c.isDigit with
    | true =>
      have hlower : c.toUpper.toLower = c.toUpper :=
        (Unicode.toLower_eq_self_iff halphanum).mpr (by rw [hupper, halpha, hdigit]; rfl)
      rw [hlower, ite_self, halpha, hdigit]
      simp
    | false =>
      have hlower : c.toUpper.toLower ≠ c.toUpper := fun heq => by
        rw [Unicode.toLower_eq_self_iff halphanum, hupper, halpha, hdigit] at heq
        cases heq
      rw [h.any_isLowerLetter_head? hdigit htail, halpha, hdigit]
      -- all that matters of the small form is that it is another one
      generalize c.toUpper.toLower = small at hlower
      rcases Unicode.isAlphanum_kinds (hbefore a rfl) with
        ⟨hu, hl, hd⟩ | ⟨hu, hl, hd⟩ | ⟨hu, hl, hd⟩ <;>
        simp [hu, hl, hd, hlower]

end

/-- Behind words there is no small letter that starts a word. -/
theorem not_isLowerLetter_head?_pascalCase {ws : List (List Char)}
    (h : ∀ word ∈ ws, word ≠ [] ∧ IsPure word) :
    (pascalCase ws).head?.any (isLowerLetter [·]) = false := by
  cases ws with
  | nil => rfl
  | cons word ws =>
    obtain ⟨⟨hne, hpure⟩, -⟩ := List.forall_mem_cons.mp h
    obtain ⟨c, word, rfl⟩ := List.exists_cons_of_ne_nil hne
    have hc := hpure.isAlphanum c List.mem_cons_self
    rw [pascalCase_cons_of_isAlphanum ws hpure.isAlphanum, List.head?_cons, Option.any_some,
      (Unicode.isCaseLetter_eq (Unicode.isAlphanum_toUpper hc)).2]
    exact (Unicode.isUpper_toUpper_eq hc).2.1

theorem initialsApart_cons {word : List Char} {ws : List (List Char)} :
    InitialsApart (word :: ws) ↔
      (isInitial word = true → ∀ next ∈ ws.head?, ¬ isInitial next = true) ∧ InitialsApart ws := by
  rw [InitialsApart, List.isChain_cons, InitialsApart]
  simp only [not_and]
  exact and_congr_left fun _ => ⟨fun h hword next hnext => h next hnext hword,
    fun h next hnext hword => h hword next hnext⟩

/-- Capitalized words are found again exactly if no two of one letter stand next to each other, the
character in front included. -/
theorem recased_pascalCase_iff {ws : List (List Char)} (h : ∀ word ∈ ws, word ≠ [] ∧ IsPure word)
    {before : Option Char} (hbefore : ∀ a ∈ before, a.isAlphanum = true) :
    recased before (pascalCase ws) = pascalCase ws ↔
      (before.any Char.isUpper = true → ∀ word ∈ ws.head?, ¬ isInitial word = true) ∧
        InitialsApart ws := by
  induction ws generalizing before with
  | nil => simp [pascalCase, recased, InitialsApart]
  | cons word ws ih =>
    obtain ⟨⟨hne, hpure⟩, hws⟩ := List.forall_mem_cons.mp h
    obtain ⟨c, word, rfl⟩ := List.exists_cons_of_ne_nil hne
    have htail := not_isLowerLetter_head?_pascalCase hws
    -- the words behind are read behind the last character of this one, which is in upper case only
    -- if the word is one letter
    let last := (word.map Char.toLower).getLastD c.toUpper
    have hlast : ∀ a ∈ some last, a.isAlphanum = true := by
      rintro _ ⟨⟩
      exact (hpure.capitalized last List.getLastD_mem_cons).1
    have ih := ih hws hlast
    rw [Option.any_some, hpure.isUpper_getLastD] at ih
    rw [pascalCase_cons_of_isAlphanum ws hpure.isAlphanum, recased,
      recased_append _ hpure.tail.toLower_eq hpure.not_endsBetween, List.cons.injEq,
      List.append_cancel_left_eq, hpure.endsBetween_iff hbefore htail, ih, initialsApart_cons]
    simp

/-! ### Type identifiers -/

variable {raw : String}

/-- The words of a name in ASCII are of one kind each. -/
theorem isPure_of_mem_words (h : ∀ c ∈ raw.toList, Unicode.isAscii c = true) :
    ∀ word ∈ words raw.toList, word ≠ [] ∧ IsPure word := by
  intro word hword
  refine ⟨ne_nil_of_mem_words hword, ?_⟩
  rw [(unmarked_of_isAscii h).words_eq, List.mem_flatMap] at hword
  obtain ⟨run, hrun, hcut⟩ := hword
  have halphanum : ∀ c ∈ run, c.isAlphanum = true := by
    intro c hc
    obtain ⟨hmem, hletter⟩ := mem_of_mem_fields hrun hc
    rwa [Unicode.isAlphanumeric_of_isAscii (h c hmem)] at hletter
  rw [letters_of_isAlphanum halphanum] at hcut
  exact isPure_of_mem_runWords halphanum word hcut

/-- A type identifier in ASCII is capitalized words: those of the name, perhaps with the fixed word
in front, which has more than one letter. -/
theorem exists_toList_entityName_eq_pascalCase (h : ∀ c ∈ raw.toList, Unicode.isAscii c = true) :
    ∃ ws, (∀ word ∈ ws, word ≠ [] ∧ IsPure word) ∧
      (InitialsApart ws ↔ InitialsApart (words raw.toList)) ∧
      (entityName raw).toList = pascalCase ws := by
  obtain ⟨front, rfl | rfl, hlist, -⟩ := toList_entityName raw
  · exact ⟨words raw.toList, isPure_of_mem_words h, Iff.rfl, hlist⟩
  · have hfixed : "Entity".toList ≠ [] ∧ IsPure "Entity".toList :=
      ⟨by decide, .inl (List.all_eq_true.mp (by decide))⟩
    have hinitial : ¬ isInitial "Entity".toList = true := by decide
    refine ⟨"Entity".toList :: words raw.toList,
      List.forall_mem_cons.mpr ⟨hfixed, isPure_of_mem_words h⟩, ?_, ?_⟩
    · rw [initialsApart_cons]
      exact and_iff_right fun hword => absurd hword hinitial
    · rw [hlist]
      rfl

/-- A type identifier in ASCII is read as one run. -/
theorem IsTypeIdentifier.entityName_eq {s : String} (h : IsTypeIdentifier s) :
    entityName s = String.ofList (recased none s.toList) := by
  have halphanum : ∀ c ∈ s.toList, c.isAlphanum = true := List.all_eq_true.mp h.2.1
  have hletter : ∀ c ∈ s.toList, Unicode.isAlphanumeric c = true := fun c hc => by
    rw [Unicode.isAlphanumeric_of_isAscii (Unicode.isAscii_of_isAlphanum (halphanum c hc))]
    exact halphanum c hc
  have hrun : words s.toList = runWords s.toList := by
    have hascii : ∀ c ∈ s.toList, Unicode.isAscii c = true := fun c hc =>
      Unicode.isAscii_of_isAlphanum (halphanum c hc)
    have hnone : ∀ c ∈ s.toList, isSeparator c = false := by simpa [isSeparator] using hletter
    rw [(unmarked_of_isAscii hascii).words_eq,
      Text.fields_of_forall_not hnone (String.toList_eq_nil_iff.not.mpr h.1),
      List.flatMap_singleton, letters_of_isAlphanum halphanum, runWords]
  have hstart : StartsWithLetter s := by
    obtain ⟨c, rest, rfl, hc, hupper⟩ := h.exists_cons
    rw [StartsWithLetter, String.toList_ofList, List.find?_cons_of_pos (hletter c (by simp))]
    simp [Unicode.isAlpha_eq, hupper]
  rw [entityName_of_startsWithLetter hstart, hrun, pascalCase_runWords halphanum]

/-- The type identifier of a name in ASCII is its own type identifier exactly if no two words of one
letter stand next to each other in the name. -/
theorem entityName_entityName_iff (h : ∀ c ∈ raw.toList, Unicode.isAscii c = true) :
    entityName (entityName raw) = entityName raw ↔ InitialsApart (words raw.toList) := by
  obtain ⟨ws, hws, hapart, hlist⟩ := exists_toList_entityName_eq_pascalCase h
  have hnone : recased none (pascalCase ws) = pascalCase ws ↔ InitialsApart ws := by
    simpa using @recased_pascalCase_iff ws hws none (by simp)
  rw [(isTypeIdentifier_entityName h).entityName_eq, ← hapart, ← hnone, ← hlist,
    ← String.toList_inj, String.toList_ofList]

end Naming

end Scaffold

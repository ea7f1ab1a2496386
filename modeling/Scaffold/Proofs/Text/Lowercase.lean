import Mathlib.Data.List.Induction
import Scaffold.Proofs.Naming.Ascii

/-!
# Lower case in front of more letters

The lower case of a text is not that of its parts put together, because of one letter: whether a
capital sigma is the last of its word depends on what follows. Of what follows it is only asked
whether it goes on with a letter. So a text has one lower case in front of all continuations that
start with a letter of ASCII, its *stem*, and how the text ends can be read off the stem: a small
letter of ASCII at the end of a stem stands there for the same letter in either case. The one
exception is the k, since the sign for kelvin has it as its lower case.

## Main definitions

* `Text.lowercaseWithin`: the lower case of a text between two others.
* `Text.stem`: the lower case of a text in front of more letters.

## Main results

* `Unicode.lower_cases`: what characters beyond ASCII become.
* `Text.lowercaseChars_append`: the lower case of a text with a suffix.
* `Text.suffix_stem_iff`: how a text and its stem end.
-/

namespace Scaffold

/-! ### Characters -/

namespace Unicode

variable {c d : Char}

theorem isAscii_of_isAlpha (h : c.isAlpha = true) : isAscii c = true :=
  isAscii_of_isAlphanum (by simp [Char.isAlphanum, h])

theorem toLower_of_not_isUpper (h : c.isUpper = false) : c.toLower = c := by
  unfold Char.isUpper at h
  unfold Char.toLower
  rw [dif_neg]
  simpa using h

theorem not_isLower_toLower (h : c.isAlpha = false) : c.toLower.isLower = false := by
  rw [isAlpha_eq, Bool.or_eq_false_iff] at h
  rw [toLower_of_not_isUpper h.1, h.2]

theorem not_isUpper_of_not_isAscii (h : isAscii c = false) : c.isUpper = false := by
  rw [← Bool.not_eq_true]
  intro hupper
  rw [isAscii_of_isAlpha (by simp [isAlpha_eq, hupper])] at h
  cases h

theorem isCased_of_isAlpha (h : c.isAlpha = true) : isCased c = true := by
  rw [isCased, if_pos (isAscii_of_isAlpha h), h]

/-- No range of characters that are looked through meets the letters of ASCII. -/
theorem not_isCaseIgnorable_of_isAlpha (h : c.isAlpha = true) : isCaseIgnorable c = false := by
  have hapart : (caseIgnorableRanges.all fun r =>
      (r.2 < 65 || 90 < r.1) && (r.2 < 97 || 122 < r.1)) = true := by decide +kernel
  have hletter : 65 ≤ c.toNat ∧ c.toNat ≤ 90 ∨ 97 ≤ c.toNat ∧ c.toNat ≤ 122 := by
    have hascii := isAscii_of_isAlpha h
    revert h
    exact forall_isAscii hascii (by decide +kernel)
  rw [isCaseIgnorable, inRanges, List.any_eq_false]
  intro r hr
  have hbounds := List.all_eq_true.mp hapart r hr
  simp only [Bool.and_eq_true, Bool.or_eq_true, decide_eq_true_eq] at hbounds ⊢
  omega

/-- A solid character with a code point beyond ASCII is beyond ASCII. A number that is no code point
would give the null character, which is not solid. -/
theorem not_isAscii_ofNat {code : Nat} (h : 128 ≤ code)
    (hsolid : isSolid (Char.ofNat code) = true) : isAscii (Char.ofNat code) = false := by
  by_cases hvalid : code.isValidChar
  · have hcode : (Char.ofNat code).toNat = code := by
      rw [Char.ofNat, dif_pos hvalid]
      rfl
    rw [isAscii, hcode, decide_eq_false_iff_not]
    omega
  · rw [Char.ofNat, dif_neg hvalid] at hsolid
    exact absurd hsolid (by decide +kernel)

/-- A character beyond ASCII becomes the dotted i, a character beyond ASCII, or the letter k. -/
theorem lower_cases (h : isAscii c = false) :
    lower c = ['i', '\u0307'] ∨ ∃ d, lower c = [d] ∧ (isAscii d = false ∨ d = 'k') := by
  have hexpansions : ∀ e ∈ lowerExpansions, e.2.map Char.ofNat = ['i', '\u0307'] := by decide
  have hruns : ∀ r ∈ lowerRuns, 128 ≤ r.target ∨ r.first = r.last ∧ r.target = 'k'.toNat := by
    decide +kernel
  rw [lower, if_neg (by simp [h]), caseForm]
  split
  · next codes hlookup => exact .inl (hexpansions _ (mem_of_lookup hlookup))
  · refine .inr ⟨_, rfl, ?_⟩
    cases himage : caseImage? lowerRuns c.toNat with
    | none => exact .inl h
    | some image =>
      have hsolid := isSolid_of_caseImage? soundTable_lower.runs himage
      obtain ⟨before, r, after, hsplit, hr, -⟩ := List.findSome?_eq_some_iff.mp himage
      split_ifs at hr with hin
      simp only [Bool.and_eq_true, decide_eq_true_eq] at hin
      obtain rfl := Option.some.inj hr
      rcases hruns r (by simp [hsplit]) with hbeyond | ⟨hone, hkelvin⟩
      · exact .inl (not_isAscii_ofNat (by omega) hsolid)
      · right
        rw [Option.elim_some, show c.toNat - r.first = 0 by omega, hkelvin]
        rfl

/-- There are no capitals of ASCII in a lower case form. -/
theorem not_isUpper_of_mem_lower (hd : d ∈ lower c) : d.isUpper = false := by
  by_cases hascii : isAscii c = true
  · rw [lower_of_isAscii hascii, List.mem_singleton] at hd
    rw [hd]
    exact forall_isAscii hascii (by decide +kernel)
  · rcases lower_cases (by simpa using hascii) with hdotted | ⟨e, hone, he⟩
    · have hall : (['i', '\u0307'].all fun e => !e.isUpper) = true := by decide
      simpa using List.all_eq_true.mp hall d (hdotted ▸ hd)
    · rw [hone, List.mem_singleton] at hd
      rcases he with he | rfl
      · rw [hd, not_isUpper_of_not_isAscii he]
      · rw [hd]
        decide

end Unicode

namespace Text

open Unicode (isCaseIgnorable isCased)

/-! ### Texts between texts -/

/-- The lower case of a text between two others, the one in front given from its end. -/
def lowercaseWithin : (before s after : List Char) → List Char
  | _, [], _ => []
  | before, c :: rest, after =>
    lowercaseForm before c (rest ++ after) ++ lowercaseWithin (c :: before) rest after

theorem lowercaseAfter_append (before s t : List Char) :
    lowercaseAfter before (s ++ t) =
      lowercaseWithin before s t ++ lowercaseAfter (s.reverse ++ before) t := by
  induction s generalizing before with
  | nil => rfl
  | cons c s ih =>
    rw [List.cons_append, lowercaseAfter_cons, ih, lowercaseWithin, List.reverse_cons,
      List.append_assoc, List.append_assoc, List.singleton_append]

theorem lowercaseWithin_append (before s t after : List Char) :
    lowercaseWithin before (s ++ t) after =
      lowercaseWithin before s (t ++ after) ++ lowercaseWithin (s.reverse ++ before) t after := by
  induction s generalizing before with
  | nil => rfl
  | cons c s ih =>
    rw [List.cons_append, lowercaseWithin, ih, lowercaseWithin, List.reverse_cons,
      List.append_assoc, List.append_assoc, List.append_assoc, List.singleton_append]

/-- Looking through a text that goes on with a letter of ASCII, it does not matter which. -/
theorem meetsCased_append {c d : Char} (hc : c.isAlpha = true) (hd : d.isAlpha = true)
    (s t u : List Char) : meetsCased (s ++ c :: t) = meetsCased (s ++ d :: u) := by
  have hmeets : ∀ {e : Char} (after : List Char), e.isAlpha = true →
      meetsCased (e :: after) = true := by
    intro e after he
    rw [meetsCased, List.dropWhile_cons, Unicode.not_isCaseIgnorable_of_isAlpha he]
    exact Unicode.isCased_of_isAlpha he
  induction s with
  | nil => rw [List.nil_append, List.nil_append, hmeets t hc, hmeets u hd]
  | cons e s ih =>
    by_cases hignorable : isCaseIgnorable e = true
    · simpa [meetsCased, List.dropWhile_cons, hignorable] using ih
    · simp [meetsCased, hignorable]

theorem lowercaseWithin_congr {c d : Char} (hc : c.isAlpha = true) (hd : d.isAlpha = true)
    (before s t u : List Char) :
    lowercaseWithin before s (c :: t) = lowercaseWithin before s (d :: u) := by
  induction s generalizing before with
  | nil => rfl
  | cons e s ih =>
    rw [lowercaseWithin, lowercaseWithin, ih, lowercaseForm, lowercaseForm,
      meetsCased_append hc hd s t u]

/-- There are no capitals of ASCII in a lower case. -/
theorem not_isUpper_of_mem_lowercaseWithin {before s after : List Char} {d : Char}
    (h : d ∈ lowercaseWithin before s after) : d.isUpper = false := by
  have hsigma : 'ς'.isUpper = false ∧ 'σ'.isUpper = false := by decide
  induction s generalizing before with
  | nil => cases h
  | cons c s ih =>
    rcases List.mem_append.mp h with h | h
    · exact forall_mem_lowercaseForm hsigma (fun _ => Unicode.not_isUpper_of_mem_lower) before
        (s ++ after) d h
    · exact ih h

/-! ### Stems -/

/-- The lower case of a text in front of more letters. It is taken in front of one of them, and any
other would do. -/
def stem (s : List Char) : List Char :=
  lowercaseWithin [] s ['s']

theorem stem_ne_nil {s : List Char} (hs : s ≠ []) : stem s ≠ [] := by
  obtain ⟨c, rest, rfl⟩ := List.exists_cons_of_ne_nil hs
  rw [stem, lowercaseWithin]
  exact List.append_ne_nil_of_left_ne_nil (lowercaseForm_ne_nil [] c (rest ++ ['s'])) _

theorem toLower_of_mem_stem {s : List Char} {d : Char} (h : d ∈ stem s) : d.toLower = d :=
  Unicode.toLower_of_not_isUpper (not_isUpper_of_mem_lowercaseWithin h)

theorem map_toLower_stem (s : List Char) : (stem s).map Char.toLower = stem s :=
  (List.map_congr_left fun _ => toLower_of_mem_stem).trans (List.map_id _)

/-- The lower case of a text with a suffix of letters is its stem with the suffix. -/
theorem lowercaseChars_append {s suffix : List Char} (hne : suffix ≠ [])
    (h : suffix.all Char.isLower = true) : lowercaseChars (s ++ suffix) = stem s ++ suffix := by
  rw [List.all_eq_true] at h
  have halpha : ∀ c ∈ suffix, c.isAlpha = true := fun c hc => by simp [Unicode.isAlpha_eq, h c hc]
  obtain ⟨c, rest, rfl⟩ := List.exists_cons_of_ne_nil hne
  have hsuffix : (c :: rest).map Char.toLower = c :: rest := by
    refine (List.map_congr_left fun d hd => ?_).trans (List.map_id _)
    refine Unicode.toLower_of_not_isUpper ?_
    have hlower := h d hd
    revert hlower
    exact Unicode.forall_isAscii (Unicode.isAscii_of_isAlpha (halpha d hd)) (by decide +kernel)
  have hstem := lowercaseWithin_congr (halpha c List.mem_cons_self) (by decide : 's'.isAlpha = true)
    [] s rest []
  rw [lowercaseChars, lowercaseAfter_append, lowercaseAfter_of_isAscii fun d hd =>
    Unicode.isAscii_of_isAlpha (halpha d hd), hsuffix, hstem, stem]

/-- A letter of ASCII at the end of a text ends the stem in its lower case. -/
theorem stem_concat {c : Char} (hc : c.isAlpha = true) (s : List Char) :
    stem (s ++ [c]) = stem s ++ [c.toLower] := by
  have hascii := Unicode.isAscii_of_isAlpha hc
  have hsigma : c ≠ 'Σ' := by
    rintro rfl
    exact absurd hc (by decide)
  rw [stem, lowercaseWithin_append, List.singleton_append, lowercaseWithin, lowercaseWithin,
    lowercaseForm, if_neg hsigma, Unicode.lower_of_isAscii hascii, List.append_nil, stem,
    lowercaseWithin_congr hc (by decide : 's'.isAlpha = true) [] s ['s'] []]

/-- Any other character ends the stem in a character that is no small letter of ASCII, or in k. -/
theorem exists_stem_concat {c : Char} (hc : c.isAlpha = false) (s : List Char) :
    ∃ front d, stem (s ++ [c]) = front ++ [d] ∧ (d.isLower = false ∨ d = 'k') := by
  have hform : ∃ front d, lowercaseForm s.reverse c ['s'] = front ++ [d] ∧
      (d.isLower = false ∨ d = 'k') := by
    rw [lowercaseForm]
    split_ifs
    · exact ⟨[], 'ς', rfl, .inl (by decide)⟩
    · exact ⟨[], 'σ', rfl, .inl (by decide)⟩
    · by_cases hascii : Unicode.isAscii c = true
      · exact ⟨[], c.toLower, Unicode.lower_of_isAscii hascii,
          .inl (Unicode.not_isLower_toLower hc)⟩
      · rcases Unicode.lower_cases (by simpa using hascii) with hdotted | ⟨d, hone, hd⟩
        · exact ⟨['i'], '\u0307', hdotted, .inl (by decide)⟩
        · refine ⟨[], d, hone, hd.imp_left fun hbeyond => ?_⟩
          rw [← Bool.not_eq_true]
          intro hlower
          rw [Unicode.isAscii_of_isAlpha (by simp [Unicode.isAlpha_eq, hlower])] at hbeyond
          cases hbeyond
  obtain ⟨front, d, hlist, hd⟩ := hform
  refine ⟨lowercaseWithin [] s [c, 's'] ++ front, d, ?_, hd⟩
  rw [stem, lowercaseWithin_append, lowercaseWithin, lowercaseWithin, List.append_nil,
    List.append_nil, List.nil_append, hlist, List.singleton_append, List.append_assoc]

/-- A text ends, but for case, in some small letters of ASCII exactly if its stem does. -/
theorem suffix_stem_iff {w : List Char} (hw : (w.all fun x => x.isLower && x != 'k') = true)
    (s : List Char) : w <:+ stem s ↔ w <:+ s.map Char.toLower := by
  simp only [List.all_eq_true, Bool.and_eq_true, bne_iff_ne] at hw
  induction s using List.reverseRecOn generalizing w with
  | nil => rfl
  | append_singleton s c ih =>
    rw [List.map_append, List.map_singleton]
    by_cases hc : c.isAlpha = true
    · rw [stem_concat hc, List.suffix_concat_iff, List.suffix_concat_iff]
      refine or_congr_right (exists_congr fun t => and_congr_right fun ht => ih fun x hx => ?_)
      exact hw x (ht ▸ List.mem_append_left _ hx)
    · -- neither text ends in a letter that could end in w
      rw [Bool.not_eq_true] at hc
      obtain ⟨front, d, hstem, hd⟩ := exists_stem_concat hc s
      have hnot : ∀ {l : List Char} {e : Char}, e.isLower = false ∨ e = 'k' →
          (w <:+ l ++ [e] ↔ w = []) := by
        intro l e he
        rw [List.suffix_concat_iff, or_iff_left]
        rintro ⟨t, rfl, -⟩
        obtain ⟨hlower, hk⟩ := hw e (by simp)
        rcases he with he | he
        · rw [he] at hlower
          cases hlower
        · exact hk he
      rw [hstem, hnot hd, hnot (.inl (Unicode.not_isLower_toLower hc))]

end Text

end Scaffold

import Mathlib.Tactic.Common
import Mathlib.Tactic.SplitIfs
import Scaffold.Unicode.Case

/-!
# Solid characters

A character is solid if no text is cut at it or trimmed of it: it is no white space, and in ASCII it
is a letter or a digit. Letters and numbers are solid. Their case forms need not be letters or
numbers again, since some letters expand to a letter and an accent, but they are solid too.

The case tables are checked row by row. A run of the table is sound if none of its images is in a
range of white space, in ASCII or outside the code points; the few runs whose image is in ASCII map
one letter to one letter.

## Main definitions

* `Unicode.isSolid`: a character that is no white space, and in ASCII a letter or a digit.
* `Unicode.isPlain`: a solid character or a space.
* `Unicode.SolidEnds`: a text that starts and ends with solid characters.
* `Unicode.SoundTable`: what a table of case forms has to satisfy for them to be solid.

## Main results

* `Unicode.isSolid_of_isAlphanumeric`: letters and numbers are solid.
* `Unicode.isSolid_of_mem_upper`, `Unicode.isSolid_of_mem_lower`: case forms stay solid.
-/

namespace Scaffold.Unicode

/-- A character that no text is cut at or trimmed of: it is no white space, and in ASCII it is a
letter or a digit. -/
def isSolid (c : Char) : Bool :=
  !isWhiteSpace c && (!isAscii c || c.isAlphanum)

/-- A character that an identifier may be made of. -/
def isPlain (c : Char) : Bool :=
  isSolid c || c == ' '

/-- A text that is empty or starts and ends with solid characters. -/
structure SolidEnds (s : List Char) : Prop where
  head : ∀ c ∈ s.head?, isSolid c = true
  last : ∀ c ∈ s.getLast?, isSolid c = true

theorem SolidEnds.append {s t : List Char} (hs : SolidEnds s) (ht : SolidEnds t) :
    SolidEnds (s ++ t) := by
  constructor
  · intro c hc
    rw [List.head?_append, Option.mem_def, Option.or_eq_some_iff] at hc
    exact hc.elim (hs.head c) fun h => ht.head c h.2
  · intro c hc
    rw [List.getLast?_append, Option.mem_def, Option.or_eq_some_iff] at hc
    exact hc.elim (ht.last c) fun h => hs.last c h.2

theorem SolidEnds.of_all {s : List Char} (h : s.all isSolid = true) : SolidEnds s where
  head c hc := List.all_eq_true.mp h c (List.mem_of_head? hc)
  last c hc := List.all_eq_true.mp h c (List.mem_of_getLast? hc)

/-- The case images of a run are characters beyond ASCII that are no white space, or the run maps
one letter to a solid one. -/
def CaseRun.isSound (r : CaseRun) : Bool :=
  let last := r.target + (r.last - r.first)
  r.first == r.last && isSolid (Char.ofNat r.target) ||
  128 ≤ r.target && (last < 0xD800 || 0xE000 ≤ r.target && last < 0x110000) &&
    whiteSpaceRanges.all fun w => last < w.1 || w.2 < r.target

theorem CaseRun.isSolid_image {r : CaseRun} (hr : r.isSound = true) {code : Nat}
    (hfirst : r.first ≤ code) (hlast : code ≤ r.last) :
    isSolid (Char.ofNat (r.target + (code - r.first))) = true := by
  simp only [isSound, Bool.or_eq_true, Bool.and_eq_true, beq_iff_eq, decide_eq_true_eq,
    List.all_eq_true] at hr
  rcases hr with ⟨hone, hsolid⟩ | ⟨⟨hascii, hvalid⟩, hspace⟩
  · rwa [show code - r.first = 0 by omega, Nat.add_zero]
  · generalize himage : r.target + (code - r.first) = image
    have hcode : (Char.ofNat image).toNat = image := by
      have hvalid' : image.isValidChar := by
        rw [Nat.isValidChar]
        omega
      rw [Char.ofNat, dif_pos hvalid']
      rfl
    rw [isSolid, isWhiteSpace, isAscii, inRanges, hcode]
    have hnot : whiteSpaceRanges.any (fun w => decide (w.1 ≤ image) && decide (image ≤ w.2)) =
        false := by
      rw [List.any_eq_false]
      intro w hw
      have := hspace w hw
      simp only [Bool.and_eq_true, decide_eq_true_eq, not_and]
      omega
    rw [hnot]
    simp only [Bool.not_false, Bool.true_and, Bool.or_eq_true, Bool.not_eq_true',
      decide_eq_false_iff_not]
    omega

/-- What a table of case forms has to satisfy for them to be solid. -/
structure SoundTable (runs : List CaseRun) (expansions : List (Nat × List Nat)) : Prop where
  runs : ∀ r ∈ runs, r.isSound = true
  expansions : ∀ e ∈ expansions, e.2 ≠ [] ∧ ∀ code ∈ e.2, isSolid (Char.ofNat code) = true

theorem soundTable_lower : SoundTable lowerRuns lowerExpansions :=
  ⟨by decide +kernel, by decide +kernel⟩

theorem soundTable_upper : SoundTable upperRuns upperExpansions :=
  ⟨by decide +kernel, by decide +kernel⟩

theorem isSolid_of_caseImage? {runs : List CaseRun} (hruns : ∀ r ∈ runs, r.isSound = true)
    {code image : Nat} (h : caseImage? runs code = some image) :
    isSolid (Char.ofNat image) = true := by
  obtain ⟨before, r, after, hsplit, hr, -⟩ := List.findSome?_eq_some_iff.mp h
  split_ifs at hr with hin
  simp only [Bool.and_eq_true, decide_eq_true_eq] at hin
  rw [← Option.some.inj hr]
  exact CaseRun.isSolid_image (hruns r (by simp [hsplit])) hin.1.1 hin.1.2

section

variable {runs : List CaseRun} {expansions : List (Nat × List Nat)} {c : Char}

theorem mem_of_lookup {code : Nat} {codes : List Nat}
    (h : expansions.lookup code = some codes) : (code, codes) ∈ expansions := by
  induction expansions with
  | nil => cases h
  | cons e rest ih =>
    rw [List.lookup_cons] at h
    split at h
    · next heq =>
      obtain rfl : code = e.1 := by simpa using heq
      cases h
      exact List.mem_cons_self
    · exact List.mem_cons_of_mem _ (ih h)

theorem SoundTable.isSolid_of_mem_caseForm (h : SoundTable runs expansions)
    (hc : isSolid c = true) : ∀ d ∈ caseForm runs expansions c, isSolid d = true := by
  intro d hd
  rw [caseForm] at hd
  split at hd
  · next codes hlookup =>
    obtain ⟨code, hcode, rfl⟩ := List.mem_map.mp hd
    exact (h.expansions _ (mem_of_lookup hlookup)).2 code hcode
  · obtain rfl := List.mem_singleton.mp hd
    cases himage : caseImage? runs c.toNat with
    | none => exact hc
    | some image => exact isSolid_of_caseImage? h.runs himage

theorem SoundTable.caseForm_ne_nil (h : SoundTable runs expansions) (c : Char) :
    caseForm runs expansions c ≠ [] := by
  rw [caseForm]
  split
  · next codes hlookup => simpa using (h.expansions _ (mem_of_lookup hlookup)).1
  · simp

/-- What holds of the characters below 128 holds of ASCII. -/
@[elab_as_elim]
theorem forall_isAscii {motive : Char → Prop} {c : Char} (hc : isAscii c = true)
    (h : ∀ n : Fin 128, motive (Char.ofNat n)) : motive c := by
  have hlt : c.toNat < 128 := by simpa [isAscii] using hc
  have hsame := h ⟨c.toNat, hlt⟩
  rwa [Char.ofNat_toNat] at hsame

/-- In ASCII the case forms of letters and digits are letters and digits. -/
theorem isSolid_ascii (hc : isSolid c = true) (hascii : isAscii c = true) :
    isSolid c.toLower = true ∧ isSolid c.toUpper = true := by
  revert hc
  refine forall_isAscii hascii ?_
  decide +kernel

theorem isSolid_of_mem_lower (hc : isSolid c = true) : ∀ d ∈ lower c, isSolid d = true := by
  rw [lower]
  split_ifs with hascii
  · simpa using (isSolid_ascii hc hascii).1
  · exact soundTable_lower.isSolid_of_mem_caseForm hc

theorem isSolid_of_mem_upper (hc : isSolid c = true) : ∀ d ∈ upper c, isSolid d = true := by
  rw [upper]
  split_ifs with hascii
  · simpa using (isSolid_ascii hc hascii).2
  · exact soundTable_upper.isSolid_of_mem_caseForm hc

theorem isPlain_of_mem_lower (hc : isPlain c = true) : ∀ d ∈ lower c, isPlain d = true := by
  intro d hd
  rw [isPlain, Bool.or_eq_true, beq_iff_eq] at hc ⊢
  rcases hc with hc | rfl
  · exact .inl (isSolid_of_mem_lower hc d hd)
  · exact .inr (List.mem_singleton.mp hd)

theorem isPlain_of_mem_upper (hc : isPlain c = true) : ∀ d ∈ upper c, isPlain d = true := by
  intro d hd
  rw [isPlain, Bool.or_eq_true, beq_iff_eq] at hc ⊢
  rcases hc with hc | rfl
  · exact .inl (isSolid_of_mem_upper hc d hd)
  · exact .inr (List.mem_singleton.mp hd)

theorem upper_ne_nil (c : Char) : upper c ≠ [] := by
  rw [upper]
  split_ifs
  · simp
  · exact soundTable_upper.caseForm_ne_nil c

theorem lower_ne_nil (c : Char) : lower c ≠ [] := by
  rw [lower]
  split_ifs
  · simp
  · exact soundTable_lower.caseForm_ne_nil c

/-- No range of white space meets a range of letters and numbers. -/
theorem isSolid_of_isAlphanumeric (hc : isAlphanumeric c = true) : isSolid c = true := by
  rw [isAlphanumeric] at hc
  split_ifs at hc with hascii
  · revert hc
    refine forall_isAscii hascii ?_
    decide +kernel
  · have hapart : (whiteSpaceRanges.all fun w => alphanumericRanges.all fun r =>
        r.2 < w.1 || w.2 < r.1) = true := by decide +kernel
    obtain ⟨r, hr, hin⟩ := List.any_eq_true.mp hc
    have hspace : isWhiteSpace c = false := by
      rw [isWhiteSpace, inRanges, List.any_eq_false]
      intro w hw
      have hbounds := List.all_eq_true.mp (List.all_eq_true.mp hapart w hw) r hr
      simp only [Bool.and_eq_true, Bool.or_eq_true, decide_eq_true_eq] at hin hbounds ⊢
      omega
    simp [isSolid, hspace, hascii]

theorem not_isAlphanumeric_of_isWhiteSpace (h : isWhiteSpace c = true) :
    isAlphanumeric c = false := by
  rw [← Bool.not_eq_true]
  intro hletter
  have hsolid := isSolid_of_isAlphanumeric hletter
  rw [isSolid, h] at hsolid
  cases hsolid

theorem not_isWhiteSpace_of_isSolid (h : isSolid c = true) : isWhiteSpace c = false := by
  rw [isSolid, Bool.and_eq_true, Bool.not_eq_true'] at h
  exact h.1

theorem not_isMark_of_isAscii (h : isAscii c = true) : isMark c = false := by
  rw [isMark, h]
  rfl

end

end Scaffold.Unicode

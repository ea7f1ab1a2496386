import Mathlib.Tactic.SplitIfs
import Scaffold.Json.Judge
import Scaffold.Json.Value
import Scaffold.Proofs.Json.Spelling

/-!
# Reading what was written

A document in its compact form is read back without a fault, whatever texts, numbers and parts it
has. The tree that is read keeps more than the document: a text is kept in pieces, of which a
control character that has no escape of its own is a code unit. `Value.toNode` is that tree. The
compact form is one of the texts that spell it, so it is read as every other one.

## Main definitions

* `Piece.ofChar`, `RawString.ofString`: a text as it is read back.
* `Value.toNode`: a document as it is read back.

## Main results

* `RawString.text_ofString`: a text that was written and read is the same text.
* `Value.spelled_write`, `spells_text`: what is written spells the document.
* `read_write`: a document is read back.
-/

namespace Scaffold.Json

/-! ### Texts -/

/-- The piece that a written character is read as. -/
def Piece.ofChar (c : Char) : Piece :=
  if c.toNat < 0x20 ∧ c ∉ ['\x08', '\x0c', '\n', '\r', '\t'] then .unit c.toNat else .char c

/-- A written text as it is read. -/
def RawString.ofString (s : String) : RawString :=
  ⟨s.toList.map Piece.ofChar, .closed⟩

theorem codeUnit?_twoHexDigits {n : Nat} (h : n < 0x20) :
    codeUnit? '0' '0' (Nat.digitChar (n / 16)) (Nat.digitChar (n % 16)) = some n := by
  have hall : ∀ n < 0x20,
      codeUnit? '0' '0' (Nat.digitChar (n / 16)) (Nat.digitChar (n % 16)) = some n := by decide
  exact hall n h

theorem Piece.spelled_ofChar (c : Char) : (Piece.ofChar c).Spelled (escapeChar c) := by
  by_cases hsimple : c ∈ ['"', '\\', '\x08', '\x0c', '\n', '\r', '\t']
  · simp only [List.mem_cons, List.not_mem_nil, or_false] at hsimple
    rcases hsimple with rfl | rfl | rfl | rfl | rfl | rfl | rfl <;>
      exact .escape (by decide)
  · simp only [List.mem_cons, List.not_mem_nil, or_false, not_or] at hsimple
    obtain ⟨hquote, hbackslash, hb, hf, hn, hr, ht⟩ := hsimple
    rw [escapeChar, if_neg hquote, if_neg hbackslash, if_neg hb, if_neg hf, if_neg hn, if_neg hr,
      if_neg ht]
    by_cases hcontrol : c.toNat < 0x20
    · have hpiece : Piece.ofChar c = .unit c.toNat := by simp [Piece.ofChar, *]
      rw [if_pos hcontrol, hpiece]
      exact .unit (codeUnit?_twoHexDigits hcontrol)
    · have hpiece : Piece.ofChar c = .char c := by simp [Piece.ofChar, hcontrol]
      rw [if_neg hcontrol, hpiece]
      exact .plain hquote hbackslash (Nat.not_lt.mp hcontrol)

theorem RawString.spelled_ofString (s : String) :
    (RawString.ofString s).Spelled (writeString s) := by
  have hpieces : ∀ cs : List Char,
      PiecesSpelled (cs.map Piece.ofChar) (cs.flatMap escapeChar) := by
    intro cs
    induction cs with
    | nil => exact .nil
    | cons c cs ih => exact .cons (Piece.spelled_ofChar c) ih
  exact .mk (hpieces s.toList)

theorem joinPieces_unit {n : Nat} (h : n < 0x20) (ending : StringEnd) (pieces : List Piece) :
    joinPieces ending (.unit n :: pieces) =
      (joinPieces ending pieces).map (Char.ofNat n :: ·) := by
  have htrailing : isTrailing n = false := by simp [isTrailing]; omega
  have hleading : isLeading n = false := by simp [isLeading]; omega
  cases pieces <;> simp [joinPieces, htrailing, hleading]

theorem joinPieces_ofChar (c : Char) (ending : StringEnd) (pieces : List Piece) :
    joinPieces ending (.ofChar c :: pieces) = (joinPieces ending pieces).map (c :: ·) := by
  unfold Piece.ofChar
  split_ifs with hcontrol
  · rw [joinPieces_unit hcontrol.1, Char.ofNat_toNat]
  · rw [joinPieces]

/-- A text that was written and read is the same text. -/
@[simp] theorem RawString.text_ofString (s : String) : (RawString.ofString s).text = .ok s := by
  have hchars : ∀ cs : List Char, joinPieces .closed (cs.map Piece.ofChar) = .ok cs := by
    intro cs
    induction cs with
    | nil => simp [joinPieces, StringEnd.error?]
    | cons c cs ih => rw [List.map_cons, joinPieces_ofChar, ih]; rfl
  rw [RawString.text, RawString.ofString, hchars]
  simp [Except.map]

/-! ### Numbers -/

/-- A number as it is read. -/
def Numeral.ofNat (n : Nat) : Numeral :=
  ⟨false, (Nat.toDigits 10 n).map fun c => c.toNat - '0'.toNat, none, none⟩

theorem Numeral.spelled_ofNat (n : Nat) : (Numeral.ofNat n).Spelled (Nat.toDigits 10 n) := by
  have hdigits : DigitsSpelled (Numeral.ofNat n).whole (Nat.toDigits 10 n) :=
    .mk Nat.toDigits_ne_nil fun c hc => Text.isDigit_of_mem_toDigits hc
  have hspelled : (Numeral.ofNat n).Spelled (signText false ++ (Nat.toDigits 10 n ++ ([] ++ []))) :=
    .mk hdigits (Text.map_digitValue_toDigits_ne n) .absent .absent
  rwa [signText, if_neg Bool.false_ne_true, List.nil_append, List.append_nil, List.append_nil]
    at hspelled

/-! ### Values -/

mutual

/-- A document as it is read. -/
def Value.toNode : Value → Node
  | .null => .null
  | .boolean b => .boolean b
  | .number n => .number (.ofNat n)
  | .string s => .string (.ofString s)
  | .array items => .array (nodesOfItems items) .closed
  | .object members => .object (nodesOfMembers members) .closed

/-- The items of a list as they are read. -/
def nodesOfItems : List Value → List Node
  | [] => []
  | v :: rest => v.toNode :: nodesOfItems rest

/-- The members of an object as they are read. -/
def nodesOfMembers : List (String × Value) → List (RawString × Node)
  | [] => []
  | (key, v) :: rest => (.ofString key, v.toNode) :: nodesOfMembers rest

end

theorem nodesOfMembers_eq_map (members : List (String × Value)) :
    nodesOfMembers members = members.map fun m => (.ofString m.1, m.2.toNode) := by
  induction members with
  | nil => rfl
  | cons m members ih => rw [nodesOfMembers, ih, List.map_cons]

mutual

/-- A written value spells the value. -/
theorem Value.spelled_write (v : Value) : v.toNode.Spelled v.write := by
  match v with
  | .null => exact .null
  | .boolean true => exact .boolean
  | .boolean false => exact .boolean
  | .number n => exact .number (Numeral.spelled_ofNat n)
  | .string s => exact .string (RawString.spelled_ofString s)
  | .array [] => exact .emptyArray blank_nil
  | .array (item :: items) =>
    exact .array blank_nil (separated_writeItems (item :: items) (List.cons_ne_nil item items))
  | .object [] => exact .emptyObject blank_nil
  | .object (m :: members) =>
    exact .object blank_nil (separated_writeMembers (m :: members) (List.cons_ne_nil m members))

/-- Written items are separated by commas. -/
theorem separated_writeItems (items : List Value) (hne : items ≠ []) :
    Separated Node.Spelled (nodesOfItems items) (writeItems items) := by
  match items with
  | [item] =>
    have hlast := Separated.last item.spelled_write blank_nil
    rw [List.append_nil] at hlast
    simp only [nodesOfItems, writeItems]
    exact hlast
  | item :: next :: items =>
    have hrest := separated_writeItems (next :: items) (List.cons_ne_nil next items)
    have hnext := Separated.next item.spelled_write blank_nil blank_nil hrest
    simp only [nodesOfItems, writeItems] at hnext ⊢
    exact hnext

/-- Written members are separated by commas. -/
theorem separated_writeMembers (members : List (String × Value)) (hne : members ≠ []) :
    Separated MemberSpelled (nodesOfMembers members) (writeMembers members) := by
  match members with
  | [(key, v)] =>
    have hmember := MemberSpelled.mk (RawString.spelled_ofString key) blank_nil blank_nil
      v.spelled_write
    have hlast := Separated.last hmember blank_nil
    rw [List.append_nil] at hlast
    simp only [nodesOfMembers, writeMembers]
    exact hlast
  | (key, v) :: next :: members =>
    have hmember := MemberSpelled.mk (RawString.spelled_ofString key) blank_nil blank_nil
      v.spelled_write
    have hrest := separated_writeMembers (next :: members) (List.cons_ne_nil next members)
    have hnext := Separated.next hmember blank_nil blank_nil hrest
    simp only [nodesOfMembers, writeMembers] at hnext ⊢
    exact hnext

end

/-- The text of a document in its compact form is a document. -/
theorem spells_text (v : Value) : Spells v.text v.toNode :=
  ⟨[], v.write, [], blank_nil, v.spelled_write, blank_nil, by simp [Value.text]⟩

/-- A written document is read back whole. -/
theorem read_write (v : Value) : read v.write = (v.toNode, some []) := by
  have hread := readValue_spelled v.spelled_write (2 * v.write.length + 2) (by omega) follows_nil
  rwa [List.append_nil] at hread

end Scaffold.Json

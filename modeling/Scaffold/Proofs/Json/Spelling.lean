import Mathlib.Data.List.TakeWhile
import Mathlib.Tactic.SplitIfs
import Scaffold.Json.Judge
import Scaffold.Json.Reader
import Scaffold.Proofs.Text.Basic

/-!
# How documents are spelled

The grammar of documents as a relation between a tree and the texts that spell it. A text leaves
open what the tree does not keep: the white space between the parts, which of the escapes of a
character is used, the letter and the sign in front of an exponent. The tree of a document has no
faults in it.

Reading a text that spells a document gives its tree back. The readers are given a number of steps.
As many as the text has characters suffice, because every value, and every comma between two values,
takes at least one character.

## Main definitions

* `Piece.Spelled`, `RawString.Spelled`, `Numeral.Spelled`: the texts of pieces of texts, of texts in
  quotes and of numbers.
* `Node.Spelled`: the texts of a value.
* `Spells`: a text is a document with a given tree.

## Main results

* `readString_spelled`, `readNumber_spelled`, `readValue_spelled`: what is spelled is read.
* `read_spells`: a document is read to its end.
-/

namespace Scaffold.Json

/-- White space between the parts of a document. -/
def Blank (s : List Char) : Prop :=
  ∀ c ∈ s, isBlank c = true

theorem blank_nil : Blank [] := by
  simp [Blank]

theorem skipBlanks_append {blank : List Char} (h : Blank blank) (s : List Char) :
    skipBlanks (blank ++ s) = skipBlanks s :=
  List.dropWhile_append_of_pos h

theorem skipBlanks_cons {c : Char} {rest : List Char} (h : isBlank c = false) :
    skipBlanks (c :: rest) = c :: rest := by
  simp [skipBlanks, h]

/-- A text is the white space in front of it and the rest. -/
theorem exists_blank_append_skipBlanks (s : List Char) :
    ∃ blank, Blank blank ∧ s = blank ++ skipBlanks s :=
  ⟨s.takeWhile isBlank, fun _ hc => List.mem_takeWhile_imp hc, List.takeWhile_append_dropWhile.symm⟩

/-! ### Texts -/

/-- The letters that stand for a character behind a backslash. -/
def escapes : List (Char × Char) :=
  [('"', '"'), ('\\', '\\'), ('/', '/'), ('b', '\x08'), ('f', '\x0c'), ('n', '\n'), ('r', '\r'),
   ('t', '\t')]

/-- The texts of a piece of a text. -/
inductive Piece.Spelled : Piece → List Char → Prop
  | plain {c : Char} : c ≠ '"' → c ≠ '\\' → 0x20 ≤ c.toNat → Spelled (.char c) [c]
  | escape {letter c : Char} : (letter, c) ∈ escapes → Spelled (.char c) ['\\', letter]
  | unit {a b c d : Char} {n : Nat} : codeUnit? a b c d = some n →
      Spelled (.unit n) ['\\', 'u', a, b, c, d]

/-- The texts of a sequence of pieces. -/
inductive PiecesSpelled : List Piece → List Char → Prop
  | nil : PiecesSpelled [] []
  | cons {p : Piece} {ps : List Piece} {s t : List Char} : p.Spelled s → PiecesSpelled ps t →
      PiecesSpelled (p :: ps) (s ++ t)

/-- The texts of a text in quotes. -/
inductive RawString.Spelled : RawString → List Char → Prop
  | mk {pieces : List Piece} {s : List Char} : PiecesSpelled pieces s →
      Spelled ⟨pieces, .closed⟩ ('"' :: (s ++ ['"']))

theorem mem_escapes_iff {letter c : Char} :
    (letter, c) ∈ escapes ↔ simpleEscape? letter = some c := by
  simp only [escapes, simpleEscape?, List.mem_cons, Prod.mk.injEq, List.not_mem_nil, or_false]
  split_ifs with h₁ h₂ h₃ h₄ h₅ h₆ h₇ h₈ <;> simp_all [eq_comm]

theorem readString_piece {p : Piece} {s : List Char} (h : p.Spelled s) (rest : List Char) :
    readString (s ++ rest) = pushPiece p (readString rest) := by
  cases h with
  | plain hquote hbackslash hcontrol =>
    rw [List.singleton_append, readString, if_neg (Nat.not_lt.mpr hcontrol)]
    all_goals simp_all
  | escape hletter =>
    rename_i letter c
    have hescape := mem_escapes_iff.mp hletter
    have hu : letter ≠ 'u' := by
      rintro rfl
      simp [escapes] at hletter
    simp only [List.cons_append, List.nil_append]
    rw [readString, hescape] <;> simp_all
  | unit hunit =>
    simp only [List.cons_append, List.nil_append]
    rw [readString, hunit]

/-- A text in quotes is read behind its opening quote. -/
theorem readString_spelled {raw : RawString} {s : List Char} (h : raw.Spelled s)
    (rest : List Char) :
    ∃ t, s = '"' :: t ∧ readString (t ++ rest) = (raw, some rest) := by
  obtain ⟨hpieces⟩ := h
  refine ⟨_, rfl, ?_⟩
  induction hpieces with
  | nil => simp [readString]
  | cons hp _ ih =>
    rw [List.append_assoc, List.append_assoc, readString_piece hp, ← List.append_assoc, ih]
    rfl

/-! ### Numbers -/

/-- The text of a nonempty sequence of digits. -/
inductive DigitsSpelled : List Nat → List Char → Prop
  | mk {s : List Char} : s ≠ [] → (∀ c ∈ s, c.isDigit = true) →
      DigitsSpelled (s.map Text.digitValue) s

/-- The texts of the fraction of a number. -/
inductive FractionSpelled : Option (List Nat) → List Char → Prop
  | absent : FractionSpelled none []
  | present {digits : List Nat} {s : List Char} : DigitsSpelled digits s →
      FractionSpelled (some digits) ('.' :: s)

/-- The texts of the sign of an exponent. -/
inductive SignSpelled : Bool → List Char → Prop
  | absent : SignSpelled false []
  | plus : SignSpelled false ['+']
  | minus : SignSpelled true ['-']

/-- The texts of the exponent of a number. -/
inductive ExponentSpelled : Option (Bool × List Nat) → List Char → Prop
  | absent : ExponentSpelled none []
  | present {letter : Char} {isNegative : Bool} {digits : List Nat} {sign s : List Char} :
      letter = 'e' ∨ letter = 'E' → SignSpelled isNegative sign → DigitsSpelled digits s →
      ExponentSpelled (some (isNegative, digits)) (letter :: (sign ++ s))

/-- The sign of a number as it is spelled. -/
def signText (isNegative : Bool) : List Char :=
  if isNegative then ['-'] else []

/-- The texts of a number. Only the number zero starts with the digit zero. -/
inductive Numeral.Spelled : Numeral → List Char → Prop
  | mk {isNegative : Bool} {whole : List Nat} {fraction : Option (List Nat)}
      {exponent : Option (Bool × List Nat)} {s t u : List Char} :
      DigitsSpelled whole s → (∀ d ds, whole ≠ 0 :: d :: ds) → FractionSpelled fraction t →
      ExponentSpelled exponent u →
      Spelled ⟨isNegative, whole, fraction, exponent⟩ (signText isNegative ++ (s ++ (t ++ u)))

/-- What may stand behind a number in a document: nothing that continues it. -/
def Follows (rest : List Char) : Prop :=
  ∀ c ∈ rest.head?, c.isDigit = false ∧ c ≠ '.' ∧ c ≠ 'e' ∧ c ≠ 'E'

theorem follows_nil : Follows [] := by
  simp [Follows]

theorem follows_cons {c : Char} (rest : List Char) (h : isBlank c = true ∨ c ∈ [',', ']', '\x7d']) :
    Follows (c :: rest) := by
  have hchars : c ∈ [' ', '\t', '\n', '\r', ',', ']', '\x7d'] := by
    simp only [isBlank, Bool.or_eq_true, beq_iff_eq, List.mem_cons, List.not_mem_nil,
      or_false] at h ⊢
    tauto
  have hall : [' ', '\t', '\n', '\r', ',', ']', '\x7d'].all
      (fun c => !c.isDigit && c != '.' && c != 'e' && c != 'E') = true := by decide
  intro d hd
  obtain rfl : c = d := by simpa using hd
  simpa [and_assoc] using List.all_eq_true.mp hall c hchars

/-- White space does not continue a number either. -/
theorem follows_blank_append {blank rest : List Char} (hblank : Blank blank) (h : Follows rest) :
    Follows (blank ++ rest) := by
  cases blank with
  | nil => exact h
  | cons c blank => exact follows_cons _ (.inl (hblank c List.mem_cons_self))

theorem readDigits_append {digits : List Nat} {s : List Char} (h : DigitsSpelled digits s)
    {rest : List Char} (hrest : ∀ c ∈ rest.head?, c.isDigit = false) :
    readDigits (s ++ rest) = (digits, rest) := by
  obtain ⟨-, hdigit⟩ := h
  have hstop : rest.takeWhile Char.isDigit = [] ∧ rest.dropWhile Char.isDigit = rest := by
    cases rest with
    | nil => simp
    | cons c rest => simp [hrest c rfl]
  rw [readDigits, List.takeWhile_append_of_pos hdigit, List.dropWhile_append_of_pos hdigit,
    hstop.1, hstop.2, List.append_nil]
  rfl

theorem DigitsSpelled.exists_cons {digits : List Nat} {s : List Char} (h : DigitsSpelled digits s) :
    ∃ c t d ds, s = c :: t ∧ c.isDigit = true ∧ digits = d :: ds := by
  obtain ⟨hne, hdigit⟩ := h
  obtain ⟨c, t, rfl⟩ := List.exists_cons_of_ne_nil hne
  exact ⟨c, t, _, _, rfl, hdigit c List.mem_cons_self, rfl⟩

theorem readExponent_append (isNegative : Bool) (whole : List Nat) (fraction : Option (List Nat))
    {exponent : Option (Bool × List Nat)} {s : List Char} (h : ExponentSpelled exponent s)
    {rest : List Char} (hrest : Follows rest) :
    readExponent isNegative whole fraction (s ++ rest) =
      (.number ⟨isNegative, whole, fraction, exponent⟩, some rest) := by
  cases h with
  | absent =>
    cases rest with
    | nil => rfl
    | cons c rest =>
      obtain ⟨-, -, he, hE⟩ := hrest c rfl
      simp [readExponent, he, hE]
  | present hletter hsign hdigits =>
    have hread := readDigits_append hdigits fun c hc => (hrest c hc).1
    obtain ⟨c, t, d, ds, rfl, hc, rfl⟩ := hdigits.exists_cons
    have hplus : c ≠ '+' := by rintro rfl; exact absurd hc (by decide)
    have hminus : c ≠ '-' := by rintro rfl; exact absurd hc (by decide)
    rw [List.cons_append] at hread
    rcases hletter with rfl | rfl <;> cases hsign <;>
      simp [readExponent, hread, hplus, hminus]

theorem readFraction_append (isNegative : Bool) (whole : List Nat)
    {fraction : Option (List Nat)} {exponent : Option (Bool × List Nat)} {s t : List Char}
    (hs : FractionSpelled fraction s) (ht : ExponentSpelled exponent t)
    {rest : List Char} (hrest : Follows rest) :
    readFraction isNegative whole (s ++ (t ++ rest)) =
      (.number ⟨isNegative, whole, fraction, exponent⟩, some rest) := by
  have hexponent := fun fraction => readExponent_append isNegative whole fraction ht hrest
  cases hs with
  | absent =>
    rw [List.nil_append, ← hexponent]
    cases ht with
    | absent =>
      cases rest with
      | nil => rfl
      | cons c rest => simp [readFraction, (hrest c rfl).2.1]
    | present hletter _ _ => rcases hletter with rfl | rfl <;> simp [readFraction]
  | present hdigits =>
    have hstop : ∀ c ∈ (t ++ rest).head?, c.isDigit = false := by
      cases ht with
      | absent => exact fun c hc => (hrest c hc).1
      | present hletter _ _ => rcases hletter with rfl | rfl <;> simp
    have hread := readDigits_append hdigits hstop
    obtain ⟨c, s, d, ds, rfl, -, rfl⟩ := hdigits.exists_cons
    rw [List.cons_append] at hread
    simp [readFraction, hread, hexponent]

/-- A number is read behind its sign. -/
theorem readNumber_spelled {n : Numeral} {s : List Char} (h : n.Spelled s) {rest : List Char}
    (hrest : Follows rest) :
    ∃ t, s = signText n.isNegative ++ t ∧
      (∃ c u, t = c :: u ∧ c.isDigit = true) ∧
      readNumber n.isNegative (t ++ rest) = (.number n, some rest) := by
  obtain @⟨isNegative, whole, fraction, exponent, s, t, u, hwhole, hzero, hfraction, hexponent⟩ := h
  have hstop : ∀ c ∈ (t ++ (u ++ rest)).head?, c.isDigit = false := by
    cases hfraction with
    | absent =>
      cases hexponent with
      | absent => exact fun c hc => (hrest c hc).1
      | present hletter _ _ => rcases hletter with rfl | rfl <;> simp
    | present _ => simp
  have hread := readDigits_append hwhole hstop
  have hend := readFraction_append isNegative whole hfraction hexponent hrest
  refine ⟨s ++ (t ++ u), rfl, ?_, ?_⟩
  · obtain ⟨c, s, -, -, rfl, hc, -⟩ := hwhole.exists_cons
    exact ⟨c, _, rfl, hc⟩
  · obtain ⟨-, -, d, ds, -, -, rfl⟩ := hwhole.exists_cons
    rw [List.append_assoc, List.append_assoc, readNumber, hread]
    split
    · next heq => cases heq
    · next heq =>
      obtain ⟨hwhole, -⟩ := Prod.mk.inj heq
      exact absurd hwhole (hzero _ _)
    · next heq =>
      obtain ⟨rfl, rfl⟩ := Prod.mk.inj heq
      exact hend

/-! ### Values -/

/-- The texts of a nonempty sequence of parts with commas between them. White space may follow a
part and a comma. -/
inductive Separated {α : Type} (part : α → List Char → Prop) : List α → List Char → Prop
  | last {a : α} {s blank : List Char} : part a s → Blank blank → Separated part [a] (s ++ blank)
  | next {a : α} {as : List α} {s t before after : List Char} : part a s → Blank before →
      Blank after → Separated part as t →
      Separated part (a :: as) (s ++ (before ++ ',' :: (after ++ t)))

mutual

/-- The texts of a value. -/
inductive Node.Spelled : Node → List Char → Prop
  | null : Node.Spelled .null ['n', 'u', 'l', 'l']
  | boolean {b : Bool} :
      Node.Spelled (.boolean b) (if b then ['t', 'r', 'u', 'e'] else ['f', 'a', 'l', 's', 'e'])
  | number {n : Numeral} {s : List Char} : n.Spelled s → Node.Spelled (.number n) s
  | string {raw : RawString} {s : List Char} : raw.Spelled s → Node.Spelled (.string raw) s
  | emptyArray {blank : List Char} : Blank blank →
      Node.Spelled (.array [] .closed) ('[' :: (blank ++ [']']))
  | array {items : List Node} {blank s : List Char} : Blank blank →
      Separated Node.Spelled items s →
      Node.Spelled (.array items .closed) ('[' :: (blank ++ (s ++ [']'])))
  | emptyObject {blank : List Char} : Blank blank →
      Node.Spelled (.object [] .closed) ('\x7b' :: (blank ++ ['\x7d']))
  | object {members : List (RawString × Node)} {blank s : List Char} : Blank blank →
      Separated MemberSpelled members s →
      Node.Spelled (.object members .closed) ('\x7b' :: (blank ++ (s ++ ['\x7d'])))

/-- The texts of a member of an object. -/
inductive MemberSpelled : RawString × Node → List Char → Prop
  | mk {key : RawString} {value : Node} {s t before after : List Char} : key.Spelled s →
      Blank before → Blank after → Node.Spelled value t →
      MemberSpelled (key, value) (s ++ (before ++ ':' :: (after ++ t)))

end

/-- A text is a document with a given tree: it spells the tree, with white space around it. -/
def Spells (text : String) (node : Node) : Prop :=
  ∃ before s after, Blank before ∧ node.Spelled s ∧ Blank after ∧
    text.toList = before ++ (s ++ after)

/-- A value starts with a character that is no white space and does not close a list. -/
theorem Node.Spelled.exists_head {v : Node} {s : List Char} (h : v.Spelled s) :
    ∃ c cs, s = c :: cs ∧ isBlank c = false ∧ c ≠ ']' := by
  cases h with
  | null => exact ⟨_, _, rfl, by decide, by decide⟩
  | @boolean b => cases b <;> exact ⟨_, _, rfl, by decide, by decide⟩
  | number hn =>
    rename_i n
    obtain ⟨t, rfl, ⟨c, u, rfl, hc⟩, -⟩ := readNumber_spelled hn follows_nil
    cases n.isNegative with
    | true => exact ⟨'-', _, rfl, by decide, by decide⟩
    | false =>
      refine ⟨c, _, rfl, ?_, by rintro rfl; exact absurd hc (by decide)⟩
      simp only [isBlank, Bool.or_eq_false_iff, beq_eq_false_iff_ne]
      refine ⟨⟨⟨?_, ?_⟩, ?_⟩, ?_⟩ <;> (rintro rfl; exact absurd hc (by decide))
  | string hraw =>
    obtain ⟨t, rfl, -⟩ := readString_spelled hraw []
    exact ⟨'"', _, rfl, by decide, by decide⟩
  | emptyArray => exact ⟨'[', _, rfl, by decide, by decide⟩
  | array => exact ⟨'[', _, rfl, by decide, by decide⟩
  | emptyObject => exact ⟨'\x7b', _, rfl, by decide, by decide⟩
  | object => exact ⟨'\x7b', _, rfl, by decide, by decide⟩

theorem Separated.exists_part {α : Type} {part : α → List Char → Prop} {as : List α}
    {s : List Char} (h : Separated part as s) : ∃ a t u, part a t ∧ s = t ++ u := by
  cases h with
  | last ha _ => exact ⟨_, _, _, ha, rfl⟩
  | next ha _ _ _ => exact ⟨_, _, _, ha, rfl⟩

theorem exists_head_items {items : List Node} {s : List Char}
    (h : Separated Node.Spelled items s) :
    ∃ c cs, s = c :: cs ∧ isBlank c = false ∧ c ≠ ']' := by
  obtain ⟨v, t, u, hv, rfl⟩ := h.exists_part
  obtain ⟨c, cs, rfl, hblank, hclose⟩ := hv.exists_head
  exact ⟨c, _, rfl, hblank, hclose⟩

theorem exists_head_members {members : List (RawString × Node)} {s : List Char}
    (h : Separated MemberSpelled members s) : ∃ cs, s = '"' :: cs := by
  obtain ⟨m, t, u, ⟨hkey, -, -, -⟩, rfl⟩ := h.exists_part
  obtain ⟨t, rfl, -⟩ := readString_spelled hkey []
  exact ⟨_, rfl⟩

/-! ### Reading what is spelled -/

theorem readValue_blank_append (steps : Nat) {blank : List Char} (h : Blank blank)
    (s : List Char) : readValue steps (blank ++ s) = readValue steps s := by
  cases steps with
  | zero => rfl
  | succ steps => rw [readValue, readValue, skipBlanks_append h]

theorem readValue_number {n : Numeral} {s : List Char} (h : n.Spelled s) {rest : List Char}
    (hrest : Follows rest) (steps : Nat) :
    readValue (steps + 1) (s ++ rest) = (.number n, some rest) := by
  obtain ⟨_, _, hs, hblank, -⟩ := (Node.Spelled.number h).exists_head
  obtain ⟨t, rfl, ⟨c, u, rfl, hc⟩, hread⟩ := readNumber_spelled h hrest
  have hne : ∀ c' : Char, c'.isDigit = false → c ≠ c' := by
    rintro c' hc' rfl
    rw [hc] at hc'
    exact absurd hc' (by decide)
  cases hn : n.isNegative with
  | true =>
    rw [hn] at hread
    have hminus : skipBlanks ('-' :: c :: (u ++ rest)) = '-' :: c :: (u ++ rest) :=
      skipBlanks_cons (by decide)
    rw [List.cons_append] at hread
    simp [signText, readValue, hminus, hread]
  | false =>
    simp only [hn, signText, Bool.false_eq_true, if_false, List.nil_append, List.cons.injEq]
      at hs hread ⊢
    obtain ⟨rfl, rfl⟩ := hs
    rw [List.cons_append] at hread ⊢
    rw [readValue, skipBlanks_cons hblank]
    simp only [hne 'n' (by decide), hne 't' (by decide), hne 'f' (by decide), hne '"' (by decide),
      hne '-' (by decide), hc, if_false, if_true, hread]

theorem readValue_list (steps : Nat) {blank : List Char} (h : Blank blank) {c : Char}
    {rest : List Char} (hblank : isBlank c = false) (hclose : c ≠ ']') :
    readValue (steps + 1) ('[' :: (blank ++ c :: rest)) =
      (.array (readItems steps (c :: rest)).1 (readItems steps (c :: rest)).2.1,
        (readItems steps (c :: rest)).2.2) := by
  have hopen : skipBlanks ('[' :: (blank ++ c :: rest)) = '[' :: (blank ++ c :: rest) :=
    skipBlanks_cons (by decide)
  simp [readValue, hopen, skipBlanks_append h, skipBlanks_cons hblank, hclose,
    show ('[' : Char).isDigit = false by decide]

theorem readValue_object (steps : Nat) {blank : List Char} (h : Blank blank) (rest : List Char) :
    readValue (steps + 1) ('\x7b' :: (blank ++ '"' :: rest)) =
      (.object (readMembers steps ('"' :: rest)).1 (readMembers steps ('"' :: rest)).2.1,
        (readMembers steps ('"' :: rest)).2.2) := by
  have hopen : skipBlanks ('\x7b' :: (blank ++ '"' :: rest)) = '\x7b' :: (blank ++ '"' :: rest) :=
    skipBlanks_cons (by decide)
  have hquote : skipBlanks ('"' :: rest) = '"' :: rest := skipBlanks_cons (by decide)
  simp [readValue, hopen, skipBlanks_append h, hquote,
    show ('\x7b' : Char).isDigit = false by decide]

mutual

/-- A value is read from a text that spells it, whatever follows it in a document. -/
theorem readValue_spelled {v : Node} {s : List Char} (h : v.Spelled s) (steps : Nat)
    (hsteps : s.length ≤ steps) {rest : List Char} (hrest : Follows rest) :
    readValue steps (s ++ rest) = (v, some rest) := by
  obtain ⟨steps, rfl⟩ : ∃ n, steps = n + 1 := by
    obtain ⟨c, cs, rfl, -⟩ := h.exists_head
    exact Nat.exists_eq_succ_of_ne_zero (by rintro rfl; simp at hsteps)
  cases h with
  | null => rfl
  | @boolean b => cases b <;> rfl
  | number hn => exact readValue_number hn hrest steps
  | string hraw =>
    obtain ⟨t, rfl, hread⟩ := readString_spelled hraw rest
    have hquote : skipBlanks ('"' :: (t ++ rest)) = '"' :: (t ++ rest) :=
      skipBlanks_cons (by decide)
    simp [readValue, hquote, hread]
  | emptyArray hblank =>
    have hopen : ∀ s, skipBlanks ('[' :: s) = '[' :: s := fun s => skipBlanks_cons (by decide)
    simp [readValue, hopen, skipBlanks_append hblank, skipBlanks_cons (c := ']') (by decide),
      show ('[' : Char).isDigit = false by decide]
  | array hblank hitems =>
    have hread := readItems_spelled hitems steps (by simp at hsteps; omega) rest
    obtain ⟨c, cs, rfl, hhead, hclose⟩ := exists_head_items hitems
    simp only [List.cons_append, List.append_assoc, List.nil_append] at hread ⊢
    rw [readValue_list steps hblank hhead hclose, hread]
  | emptyObject hblank =>
    have hopen : ∀ s, skipBlanks ('\x7b' :: s) = '\x7b' :: s := fun s =>
      skipBlanks_cons (by decide)
    simp [readValue, hopen, skipBlanks_append hblank, skipBlanks_cons (c := '\x7d') (by decide),
      show ('\x7b' : Char).isDigit = false by decide]
  | object hblank hmembers =>
    have hread := readMembers_spelled hmembers steps (by simp at hsteps; omega) rest
    obtain ⟨cs, rfl⟩ := exists_head_members hmembers
    simp only [List.cons_append, List.append_assoc, List.nil_append] at hread ⊢
    rw [readValue_object steps hblank, hread]
termination_by steps

/-- The items of a list are read to the end of the list. -/
theorem readItems_spelled {items : List Node} {s : List Char}
    (h : Separated Node.Spelled items s) (steps : Nat) (hsteps : s.length + 1 ≤ steps)
    (rest : List Char) :
    readItems steps (s ++ ']' :: rest) = (items, .closed, some rest) := by
  obtain ⟨steps, rfl⟩ : ∃ n, steps = n + 1 := Nat.exists_eq_succ_of_ne_zero (by omega)
  cases h with
  | last hitem hblank =>
    simp only [List.length_append] at hsteps
    have hread := readValue_spelled hitem steps (by omega)
      (follows_blank_append hblank (follows_cons (c := ']') rest (by simp)))
    rw [List.append_assoc, readItems, hread]
    simp [skipBlanks_append hblank, skipBlanks_cons (c := ']') (by decide)]
  | @next _ _ _ t _ after hitem hbefore hafter hitems =>
    simp only [List.length_append, List.length_cons] at hsteps
    have hread := readValue_spelled hitem steps (by omega)
      (follows_blank_append hbefore
        (follows_cons (c := ',') (after ++ (t ++ ']' :: rest)) (by simp)))
    have hreads := readItems_spelled hitems steps (by omega) rest
    obtain ⟨c, cs, rfl, hhead, hclose⟩ := exists_head_items hitems
    simp only [List.append_assoc, List.cons_append] at hread hreads ⊢
    rw [readItems, hread]
    simp [skipBlanks_append hbefore, skipBlanks_cons (c := ',') (by decide),
      skipBlanks_append hafter, skipBlanks_cons hhead, hclose, hreads]
termination_by steps

/-- The members of an object are read to the end of the object. -/
theorem readMembers_spelled {members : List (RawString × Node)} {s : List Char}
    (h : Separated MemberSpelled members s) (steps : Nat) (hsteps : s.length + 1 ≤ steps)
    (rest : List Char) :
    readMembers steps (s ++ '\x7d' :: rest) = (members, .closed, some rest) := by
  obtain ⟨steps, rfl⟩ : ∃ n, steps = n + 1 := Nat.exists_eq_succ_of_ne_zero (by omega)
  cases h with
  | last hmember hblank =>
    obtain ⟨hkey, hcolon, hvalue, hv⟩ := hmember
    simp only [List.length_append, List.length_cons] at hsteps
    have hread := readValue_spelled hv steps (by omega)
      (follows_blank_append hblank (follows_cons (c := '\x7d') rest (by simp)))
    simp only [List.append_assoc, List.cons_append]
    obtain ⟨t, rfl, hreadKey⟩ := readString_spelled hkey _
    rw [List.cons_append, readMembers, hreadKey]
    simp [skipBlanks_append hcolon, skipBlanks_cons (c := ':') (by decide),
      readValue_blank_append _ hvalue, hread, skipBlanks_append hblank,
      skipBlanks_cons (c := '\x7d') (by decide)]
  | @next _ _ _ t _ after hmember hbefore hafter hmembers =>
    obtain ⟨hkey, hcolon, hvalue, hv⟩ := hmember
    simp only [List.length_append, List.length_cons] at hsteps
    have hread := readValue_spelled hv steps (by omega)
      (follows_blank_append hbefore
        (follows_cons (c := ',') (after ++ (t ++ '\x7d' :: rest)) (by simp)))
    have hreads := readMembers_spelled hmembers steps (by omega) rest
    obtain ⟨cs, rfl⟩ := exists_head_members hmembers
    simp only [List.append_assoc, List.cons_append] at hread hreads ⊢
    obtain ⟨t, rfl, hreadKey⟩ := readString_spelled hkey _
    rw [List.cons_append, readMembers, hreadKey]
    simp [skipBlanks_append hcolon, skipBlanks_cons (c := ':') (by decide),
      readValue_blank_append _ hvalue, hread, skipBlanks_append hbefore,
      skipBlanks_cons (c := ',') (by decide), skipBlanks_append hafter,
      skipBlanks_cons (c := '"') (by decide), hreads]
termination_by steps

end

/-- A document is read to the white space at its end. -/
theorem read_spells {text : String} {node : Node} (h : Spells text node) :
    ∃ after, Blank after ∧ read text.toList = (node, some after) := by
  obtain ⟨before, s, after, hbefore, hs, hafter, htext⟩ := h
  refine ⟨after, hafter, ?_⟩
  have hend : Follows after := by
    simpa using follows_blank_append hafter follows_nil
  rw [read, htext, readValue_blank_append _ hbefore]
  exact readValue_spelled hs _ (by simp only [List.length_append]; omega) hend

end Scaffold.Json

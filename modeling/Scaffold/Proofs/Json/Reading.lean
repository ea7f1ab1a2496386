import Scaffold.Proofs.Json.Spelling

/-!
# What a reader returns

A reader returns what it read together with the rest of the text, or without it once it met a fault.
In the first case the text starts with a spelling of what was read. In the second case the fault is
in what was read, so that nothing that looks at all of it accepts it.

Both are proved at once, as `ReadFrom`, along the readers: first of texts and numbers, then of
values by induction on the steps. For lists and objects it is said once what one step can do.

## Main definitions

* `ReadFrom`: what a reader may return for a text.
* `Node.IsWhole`: a value without a fault in it.
* `ItemsStep`, `MembersStep`: what one step does in a list or an object.

## Main results

* `readString_readFrom`, `readNumber_readFrom`, `readValue_readFrom`: the readers return such a
  thing.
* `Node.Spelled.isWhole`: what is spelled has no fault.
* `spells_of_read`, `Spells.unique`: a text that is read to its end is a document, and no other one.
-/

namespace Scaffold.Json

/-- What a reader may return for a text: something that the text starts with, and the rest, or
something faulty. -/
inductive ReadFrom {α : Type} (spelled : α → List Char → Prop) (isWhole : α → Prop)
    (s : List Char) : α × Option (List Char) → Prop
  | whole {a : α} {t rest : List Char} : spelled a t → s = t ++ rest →
      ReadFrom spelled isWhole s (a, some rest)
  | faulty {a : α} : ¬isWhole a → ReadFrom spelled isWhole s (a, none)

/-- What was read becomes a part of something that has a text of its own in front. -/
theorem ReadFrom.map {α β : Type} {spelled : α → List Char → Prop} {isWhole : α → Prop}
    {spelled' : β → List Char → Prop} {isWhole' : β → Prop} {s : List Char}
    {r : α × Option (List Char)} (h : ReadFrom spelled isWhole s r) (f : α → β) (front : List Char)
    (hspelled : ∀ a t, spelled a t → spelled' (f a) (front ++ t))
    (hwhole : ∀ a, isWhole' (f a) → isWhole a) :
    ReadFrom spelled' isWhole' (front ++ s) (f r.1, r.2) := by
  cases h with
  | whole ha hs => exact .whole (hspelled _ _ ha) (by rw [hs, List.append_assoc])
  | faulty ha => exact .faulty fun h => ha (hwhole _ h)

/-- A value without a fault. -/
def Node.IsWhole (v : Node) : Prop :=
  v.skipError? = none

theorem Node.not_isWhole_broken (fault : Fault) : ¬(Node.broken fault).IsWhole := by
  simp [IsWhole, skipError?]

/-! ### Texts -/

/-- A text in quotes without a fault. -/
def RawString.IsWhole (raw : RawString) : Prop :=
  raw.skipError? = none

theorem pushPiece_readFrom {p : Piece} {s rest : List Char} (hp : p.Spelled s)
    {r : RawString × Option (List Char)}
    (h : ReadFrom (fun raw t => raw.Spelled ('"' :: t)) RawString.IsWhole rest r) :
    ReadFrom (fun raw t => raw.Spelled ('"' :: t)) RawString.IsWhole (s ++ rest)
      (pushPiece p r) := by
  refine h.map (fun raw : RawString => (⟨p :: raw.pieces, raw.ending⟩ : RawString)) s ?_
    fun _ hraw => hraw
  intro raw t hraw
  obtain @⟨pieces, t, hpieces⟩ := hraw
  have hspelled := RawString.Spelled.mk (.cons hp hpieces)
  rwa [List.append_assoc] at hspelled

/-- What is read behind an opening quote. -/
theorem readString_readFrom (s : List Char) :
    ReadFrom (fun raw t => raw.Spelled ('"' :: t)) RawString.IsWhole s (readString s) := by
  have hfault : ∀ {s : List Char} {ending : StringEnd}, ending.error? ≠ none →
      ReadFrom (fun raw t => raw.Spelled ('"' :: t)) RawString.IsWhole s
        (⟨[], ending⟩, none) :=
    fun hending => .faulty hending
  fun_induction readString s with
  | case1 => exact hfault (by simp [StringEnd.error?])
  | case2 rest => exact .whole (.mk .nil) rfl
  | case3 a b c d rest n hunit ih => exact pushPiece_readFrom (.unit hunit) ih
  | case4 a b c d rest hunit => exact hfault (by simp [StringEnd.error?])
  | case5 rest hshort => exact hfault (by split <;> simp [StringEnd.error?])
  | case6 => exact hfault (by simp [StringEnd.error?])
  | case7 letter rest _ _ c hescape ih =>
    exact pushPiece_readFrom (.escape (mem_escapes_iff.mpr hescape)) ih
  | case8 letter rest _ _ hescape => exact hfault (by simp [StringEnd.error?])
  | case9 c rest => exact hfault (by simp [StringEnd.error?])
  | case10 c rest hquote _ _ hend hletter hcontrol ih =>
    refine pushPiece_readFrom (s := [c]) (.plain hquote ?_ (Nat.not_lt.mp hcontrol)) ih
    intro hbackslash
    cases rest with
    | nil => exact hend hbackslash rfl
    | cons letter rest => exact hletter letter rest hbackslash rfl

/-! ### Numbers and words -/

theorem exists_append_readDigits (s : List Char) :
    (readDigits s).1 = [] ∨
      ∃ t, DigitsSpelled (readDigits s).1 t ∧ s = t ++ (readDigits s).2 := by
  rcases Decidable.em (s.takeWhile Char.isDigit = []) with hnone | hsome
  · exact .inl (by rw [readDigits, hnone]; rfl)
  · exact .inr ⟨_, .mk hsome fun c hc => List.mem_takeWhile_imp hc,
      List.takeWhile_append_dropWhile.symm⟩

/-- What is read where digits are required. -/
theorem readFrom_of_digits {s : List Char} {digits : List Nat} {rest : List Char}
    (h : readDigits s = (digits, rest)) (hne : digits ≠ []) :
    ∃ t, DigitsSpelled digits t ∧ s = t ++ rest := by
  rcases exists_append_readDigits s with hnone | ⟨t, ht, hs⟩
  · rw [h] at hnone
    exact absurd hnone hne
  · rw [h] at ht hs
    exact ⟨t, ht, hs⟩

theorem numberFault_readFrom {spelled : Node → List Char → Prop} {s : List Char}
    (rest : List Char) : ReadFrom spelled Node.IsWhole s (numberFault rest) :=
  .faulty (Node.not_isWhole_broken _)

/-- The digits of an exponent are read behind its letter and its sign. -/
theorem exponentDigits_readFrom (isNegative : Bool) (whole : List Nat)
    (fraction : Option (List Nat)) {letter : Char} {negative : Bool} {sign rest : List Char}
    (hletter : letter = 'e' ∨ letter = 'E') (hsign : SignSpelled negative sign) :
    ReadFrom (fun v t => ∃ exponent, ExponentSpelled exponent t ∧
      v = .number ⟨isNegative, whole, fraction, exponent⟩) Node.IsWhole
      (letter :: (sign ++ rest))
      (match readDigits rest with
      | ([], rest) => numberFault rest
      | (digits, rest) =>
        (.number ⟨isNegative, whole, fraction, some (negative, digits)⟩, some rest)) := by
  split
  · exact numberFault_readFrom _
  · next digits rest' hne hread =>
    obtain ⟨t, ht, rfl⟩ := readFrom_of_digits hread hne
    exact .whole ⟨_, .present hletter hsign ht, rfl⟩ (by simp)

theorem readExponent_readFrom (isNegative : Bool) (whole : List Nat)
    (fraction : Option (List Nat)) (s : List Char) :
    ReadFrom (fun v t => ∃ exponent, ExponentSpelled exponent t ∧
      v = .number ⟨isNegative, whole, fraction, exponent⟩) Node.IsWhole s
      (readExponent isNegative whole fraction s) := by
  unfold readExponent
  dsimp only
  split
  · exact exponentDigits_readFrom _ _ _ (.inl rfl) .plus
  · exact exponentDigits_readFrom _ _ _ (.inr rfl) .plus
  · exact exponentDigits_readFrom _ _ _ (.inl rfl) .minus
  · exact exponentDigits_readFrom _ _ _ (.inr rfl) .minus
  · exact exponentDigits_readFrom _ _ _ (.inl rfl) .absent
  · exact exponentDigits_readFrom _ _ _ (.inr rfl) .absent
  · exact .whole ⟨none, .absent, rfl⟩ rfl

theorem readFraction_readFrom (isNegative : Bool) (whole : List Nat) (s : List Char) :
    ReadFrom (fun v t => ∃ fraction exponent u w, FractionSpelled fraction u ∧
      ExponentSpelled exponent w ∧ t = u ++ w ∧
      v = .number ⟨isNegative, whole, fraction, exponent⟩) Node.IsWhole s
      (readFraction isNegative whole s) := by
  rw [readFraction.eq_def]
  split
  · next rest =>
    split
    · exact numberFault_readFrom _
    · next digits rest' hne hread =>
      obtain ⟨u, hu, rfl⟩ := readFrom_of_digits hread hne
      refine (readExponent_readFrom isNegative whole (some digits) rest').map id ('.' :: u) ?_
        fun _ h => h
      rintro v w ⟨exponent, hw, rfl⟩
      exact ⟨_, _, _, _, .present hu, hw, rfl, rfl⟩
  · refine (readExponent_readFrom isNegative whole none s).map id [] ?_ fun _ h => h
    rintro v w ⟨exponent, hw, rfl⟩
    exact ⟨_, _, _, _, .absent, hw, rfl, rfl⟩

/-- What is read behind the sign of a number. -/
theorem readNumber_readFrom (isNegative : Bool) (s : List Char) :
    ReadFrom (fun v t => v.Spelled (signText isNegative ++ t)) Node.IsWhole s
      (readNumber isNegative s) := by
  rw [readNumber]
  split
  · exact numberFault_readFrom _
  · exact .faulty (Node.not_isWhole_broken _)
  · next whole rest hne hzero hread =>
    obtain ⟨u, hu, rfl⟩ := readFrom_of_digits hread hne
    refine (readFraction_readFrom isNegative whole rest).map id u ?_ fun _ h => h
    rintro v t ⟨fraction, exponent, w, x, hw, hx, rfl, rfl⟩
    exact .number (.mk hu (fun d ds hwhole => hzero d ds hwhole) hw hx)

/-- What is read of a fixed word. -/
theorem readWord_readFrom (value : Node) (word s : List Char) :
    ReadFrom (fun v t => v = value ∧ t = word) Node.IsWhole s (readWord value word s) := by
  induction word generalizing s with
  | nil => exact .whole ⟨rfl, rfl⟩ rfl
  | cons w word ih =>
    cases s with
    | nil => exact .faulty (Node.not_isWhole_broken _)
    | cons c rest =>
      rw [readWord]
      split_ifs with hc
      · subst hc
        refine (ih rest).map id [c] ?_ fun _ h => h
        rintro v t ⟨rfl, rfl⟩
        exact ⟨rfl, rfl⟩
      · exact .faulty (Node.not_isWhole_broken _)

/-! ### Values -/

theorem Blank.append {s t : List Char} (hs : Blank s) (ht : Blank t) : Blank (s ++ t) :=
  fun c hc => (List.mem_append.mp hc).elim (hs c) (ht c)

/-- The texts of a value with white space in front. -/
def SpelledBehind (v : Node) (s : List Char) : Prop :=
  ∃ blank t, Blank blank ∧ v.Spelled t ∧ s = blank ++ t

/-- The texts of the items of a list up to its end. -/
def ItemsEnd (list : List Node × ArrayEnd) (s : List Char) : Prop :=
  list.2 = .closed ∧ ∃ blank t, Blank blank ∧ Separated Node.Spelled list.1 t ∧
    s = blank ++ (t ++ [']'])

/-- The texts of the members of an object up to its end. -/
def MembersEnd (object : List (RawString × Node) × ObjectEnd) (s : List Char) : Prop :=
  object.2 = .closed ∧ ∃ t, Separated MemberSpelled object.1 t ∧ s = t ++ ['\x7d']

/-- A list without a fault. -/
def ItemsWhole (list : List Node × ArrayEnd) : Prop :=
  (Node.array list.1 list.2).IsWhole

/-- An object without a fault. -/
def MembersWhole (object : List (RawString × Node) × ObjectEnd) : Prop :=
  (Node.object object.1 object.2).IsWhole

theorem Node.isWhole_array_iff (items : List Node) (ending : ArrayEnd) :
    (Node.array items ending).IsWhole ↔ (∀ v ∈ items, v.IsWhole) ∧ ending.skipError? = none := by
  have hitems : skipItems items = none ↔ ∀ v ∈ items, v.skipError? = none := by
    induction items with
    | nil => simp [skipItems]
    | cons v rest ih => simp [skipItems, ih]
  simp [IsWhole, skipError?, hitems]

theorem Node.isWhole_object_iff (members : List (RawString × Node)) (ending : ObjectEnd) :
    (Node.object members ending).IsWhole ↔
      (∀ m ∈ members, m.1.IsWhole ∧ m.2.IsWhole) ∧ ending.skipError? = none := by
  have hmembers : skipMembers members = none ↔
      ∀ m ∈ members, m.1.skipError? = none ∧ m.2.skipError? = none := by
    induction members with
    | nil => simp [skipMembers]
    | cons m rest ih => simp [skipMembers, ih, and_assoc]
  simp [IsWhole, RawString.IsWhole, skipError?, hmembers]

/-- What one step does to the items of a list: it meets a fault, it is cut off in an item, or it
reads an item and the list ends or goes on. -/
inductive ItemsStep (steps : Nat) :
    List Char → List Node × ArrayEnd × Option (List Char) → Prop
  | fault {s : List Char} {items : List Node} {ending : ArrayEnd} : ending.skipError? ≠ none →
      ItemsStep steps s (items, ending, none)
  | cut {s : List Char} {v : Node} : readValue steps s = (v, none) →
      ItemsStep steps s ([v], .cut, none)
  | closed {s blank rest : List Char} {v : Node} : Blank blank →
      readValue steps s = (v, some (blank ++ ']' :: rest)) →
      ItemsStep steps s ([v], .closed, some rest)
  | next {s blank blank' rest : List Char} {v : Node} : Blank blank → Blank blank' →
      readValue steps s = (v, some (blank ++ ',' :: (blank' ++ rest))) →
      ItemsStep steps s (v :: (readItems steps rest).1, (readItems steps rest).2)

theorem readItems_step (steps : Nat) (s : List Char) :
    ItemsStep steps s (readItems (steps + 1) s) := by
  rw [readItems]
  split
  · next v hv => exact .cut hv
  · next v rest hv =>
    obtain ⟨blank, hblank, hrest⟩ := exists_blank_append_skipBlanks rest
    split
    · exact .fault (by simp [ArrayEnd.skipError?])
    · next rest hclose =>
      rw [hrest, hclose] at hv
      exact .closed hblank hv
    · next rest hcomma =>
      obtain ⟨blank', hblank', hrest'⟩ := exists_blank_append_skipBlanks rest
      rw [hrest, hcomma, hrest'] at hv
      split
      · exact .fault (by simp [ArrayEnd.skipError?])
      · exact .fault (by simp [ArrayEnd.skipError?])
      · exact .next hblank hblank' hv
    · exact .fault (by simp [ArrayEnd.skipError?])

/-- What one step does to the members of an object: it meets a fault, it is cut off in a value, or
it reads a member and the object ends or goes on. -/
inductive MembersStep (steps : Nat) :
    List Char → List (RawString × Node) × ObjectEnd × Option (List Char) → Prop
  | fault {s : List Char} {members : List (RawString × Node)} {ending : ObjectEnd} :
      ending.skipError? ≠ none → MembersStep steps s (members, ending, none)
  | cut {key : RawString} {k before s : List Char} {v : Node} : key.Spelled k → Blank before →
      readValue steps s = (v, none) →
      MembersStep steps (k ++ (before ++ ':' :: s)) ([(key, v)], .cut, none)
  | closed {key : RawString} {k before s blank rest : List Char} {v : Node} : key.Spelled k →
      Blank before → Blank blank → readValue steps s = (v, some (blank ++ '\x7d' :: rest)) →
      MembersStep steps (k ++ (before ++ ':' :: s)) ([(key, v)], .closed, some rest)
  | next {key : RawString} {k before s blank blank' rest : List Char} {v : Node} : key.Spelled k →
      Blank before → Blank blank → Blank blank' →
      readValue steps s = (v, some (blank ++ ',' :: (blank' ++ rest))) →
      MembersStep steps (k ++ (before ++ ':' :: s))
        ((key, v) :: (readMembers steps rest).1, (readMembers steps rest).2)

theorem readMembers_step (steps : Nat) (s : List Char) :
    MembersStep steps s (readMembers (steps + 1) s) := by
  rw [readMembers.eq_def]
  dsimp only
  split
  · next rest =>
    have hkey := readString_readFrom rest
    generalize readString rest = r at hkey ⊢
    cases hkey with
    | faulty hkey => exact .fault hkey
    | @whole key k rest hkey hs =>
      obtain ⟨before, hbefore, hrest⟩ := exists_blank_append_skipBlanks rest
      subst hs
      dsimp only
      split
      · next value hcolon =>
        rw [hrest, hcolon]
        split
        · next v hv => exact .cut hkey hbefore hv
        · next v rest hv =>
          obtain ⟨blank, hblank, hrest⟩ := exists_blank_append_skipBlanks rest
          split
          · exact .fault (by simp [ObjectEnd.skipError?])
          · next rest hclose =>
            rw [hrest, hclose] at hv
            exact .closed hkey hbefore hblank hv
          · next rest hcomma =>
            obtain ⟨blank', hblank', hrest'⟩ := exists_blank_append_skipBlanks rest
            rw [hrest, hcomma, hrest'] at hv
            split
            · exact .fault (by simp [ObjectEnd.skipError?])
            · exact .fault (by simp [ObjectEnd.skipError?])
            · exact .next hkey hbefore hblank hblank' hv
          · exact .fault (by simp [ObjectEnd.skipError?])
      · exact .fault (by simp [ObjectEnd.skipError?])
      · exact .fault (by simp [ObjectEnd.skipError?])
  · exact .fault (by simp [ObjectEnd.skipError?])

mutual

/-- What is read of a value. -/
theorem readValue_readFrom (steps : Nat) (s : List Char) (hsteps : 2 * s.length + 1 ≤ steps) :
    ReadFrom SpelledBehind Node.IsWhole s (readValue steps s) := by
  match steps with
  | 0 => omega
  | steps + 1 =>
    obtain ⟨blank, hblank, hs⟩ := exists_blank_append_skipBlanks s
    have hbehind : ∀ {v t}, v.Spelled t → SpelledBehind v (blank ++ t) :=
      fun hv => ⟨blank, _, hblank, hv, rfl⟩
    rw [readValue]
    split
    · exact .faulty (Node.not_isWhole_broken _)
    · next c rest hskip =>
      rw [hskip] at hs
      have hlength : 2 * rest.length + 2 ≤ steps := by
        rw [hs, List.length_append, List.length_cons] at hsteps
        omega
      rw [hs, ← List.singleton_append, ← List.append_assoc]
      clear hs hskip
      split_ifs with hn ht hf hquote hminus hdigit hlist hobject
      · refine (readWord_readFrom .null _ rest).map id _ ?_ fun _ h => h
        rintro v t ⟨rfl, rfl⟩
        subst hn
        rw [List.append_assoc]
        exact hbehind .null
      · refine (readWord_readFrom (.boolean true) _ rest).map id _ ?_ fun _ h => h
        rintro v t ⟨rfl, rfl⟩
        subst ht
        rw [List.append_assoc]
        exact hbehind .boolean
      · refine (readWord_readFrom (.boolean false) _ rest).map id _ ?_ fun _ h => h
        rintro v t ⟨rfl, rfl⟩
        subst hf
        rw [List.append_assoc]
        exact hbehind .boolean
      · refine (readString_readFrom rest).map Node.string _ ?_ fun _ h => h
        intro raw t hraw
        subst hquote
        rw [List.append_assoc]
        exact hbehind (.string hraw)
      · refine (readNumber_readFrom true rest).map id _ ?_ fun _ h => h
        intro v t hv
        subst hminus
        rw [List.append_assoc]
        exact hbehind hv
      · rw [List.append_assoc]
        refine (readNumber_readFrom false (c :: rest)).map id _ ?_ fun _ h => h
        exact fun v t hv => hbehind hv
      · subst hlist
        obtain ⟨inner, hinner, hrest⟩ := exists_blank_append_skipBlanks rest
        generalize skipBlanks rest = rest at hrest ⊢
        subst hrest
        split
        · exact .faulty (by simp [Node.isWhole_array_iff, ArrayEnd.skipError?])
        · exact .whole (hbehind (.emptyArray hinner)) (by simp)
        · have hitems := readItems_readFrom steps rest (by simp at hlength; omega)
          rw [← List.append_assoc]
          refine hitems.map (fun list => Node.array list.1 list.2) _ ?_ fun _ h => h
          rintro ⟨items, ending⟩ t ⟨rfl, blank', t, hblank', ht, rfl⟩
          have hv := hbehind (.array (hinner.append hblank') ht)
          simpa using hv
      · subst hobject
        obtain ⟨inner, hinner, hrest⟩ := exists_blank_append_skipBlanks rest
        generalize skipBlanks rest = rest at hrest ⊢
        subst hrest
        split
        · exact .faulty (by simp [Node.isWhole_object_iff, ObjectEnd.skipError?])
        · exact .whole (hbehind (.emptyObject hinner)) (by simp)
        · have hmembers := readMembers_readFrom steps rest (by simp at hlength; omega)
          rw [← List.append_assoc]
          refine hmembers.map (fun object => Node.object object.1 object.2) _ ?_ fun _ h => h
          rintro ⟨members, ending⟩ t ⟨rfl, t, ht, rfl⟩
          have hv := hbehind (.object hinner ht)
          simpa using hv
      · exact .faulty (Node.not_isWhole_broken _)
termination_by steps

/-- What is read of the items of a list. -/
theorem readItems_readFrom (steps : Nat) (s : List Char) (hsteps : 2 * s.length + 2 ≤ steps) :
    ReadFrom ItemsEnd ItemsWhole s
      (((readItems steps s).1, (readItems steps s).2.1), (readItems steps s).2.2) := by
  match steps with
  | 0 => omega
  | steps + 1 =>
    have hread := readValue_readFrom steps s (by omega)
    have hstep := readItems_step steps s
    generalize readItems (steps + 1) s = r at hstep ⊢
    cases hstep with
    | fault hending => exact .faulty fun h => hending ((Node.isWhole_array_iff _ _).mp h).2
    | cut hv =>
      rw [hv] at hread
      obtain @⟨-⟩ | hfault := hread
      exact .faulty fun h => hfault (((Node.isWhole_array_iff _ _).mp h).1 _ List.mem_cons_self)
    | closed hblank hv =>
      rw [hv] at hread
      obtain ⟨⟨before, t, hbefore, ht, rfl⟩, hs⟩ := hread
      exact .whole ⟨rfl, before, _, hbefore, .last ht hblank, rfl⟩ (by simp [hs])
    | @next blank blank' rest v hblank hblank' hv =>
      rw [hv] at hread
      obtain ⟨⟨before, t, hbefore, ht, rfl⟩, hs⟩ := hread
      have hs : s = before ++ (t ++ (blank ++ ',' :: blank')) ++ rest := by simp [hs]
      have hitems := readItems_readFrom steps rest (by simp [hs] at hsteps; omega)
      rw [hs]
      refine hitems.map (fun list => (v :: list.1, list.2)) _ ?_ ?_
      · rintro ⟨items, ending⟩ u ⟨rfl, blank'', u, hblank'', hu, rfl⟩
        exact ⟨rfl, before, _, hbefore, .next ht hblank (hblank'.append hblank'') hu, by simp⟩
      · rintro ⟨items, ending⟩ hwhole
        rw [ItemsWhole, Node.isWhole_array_iff] at hwhole ⊢
        exact ⟨fun v hv => hwhole.1 v (List.mem_cons_of_mem _ hv), hwhole.2⟩
termination_by steps

/-- What is read of the members of an object. -/
theorem readMembers_readFrom (steps : Nat) (s : List Char) (hsteps : 2 * s.length + 2 ≤ steps) :
    ReadFrom MembersEnd MembersWhole s
      (((readMembers steps s).1, (readMembers steps s).2.1), (readMembers steps s).2.2) := by
  match steps with
  | 0 => omega
  | steps + 1 =>
    have hstep := readMembers_step steps s
    generalize readMembers (steps + 1) s = r at hstep ⊢
    cases hstep with
    | fault hending => exact .faulty fun h => hending ((Node.isWhole_object_iff _ _).mp h).2
    | @cut key k before s v hkey hbefore hv =>
      have hread := readValue_readFrom steps s (by simp at hsteps; omega)
      rw [hv] at hread
      obtain @⟨-⟩ | hfault := hread
      exact .faulty fun h =>
        hfault (((Node.isWhole_object_iff _ _).mp h).1 _ List.mem_cons_self).2
    | @closed key k before s blank rest v hkey hbefore hblank hv =>
      have hread := readValue_readFrom steps s (by simp at hsteps; omega)
      rw [hv] at hread
      obtain ⟨⟨after, t, hafter, ht, rfl⟩, rfl⟩ := hread
      exact .whole ⟨rfl, _, .last (.mk hkey hbefore hafter ht) hblank, rfl⟩ (by simp)
    | @next key k before s blank blank' rest v hkey hbefore hblank hblank' hv =>
      have hread := readValue_readFrom steps s (by simp at hsteps; omega)
      rw [hv] at hread
      obtain ⟨⟨after, t, hafter, ht, rfl⟩, rfl⟩ := hread
      have hmember := MemberSpelled.mk hkey hbefore hafter ht
      have hmembers := readMembers_readFrom steps rest (by simp at hsteps; omega)
      have hs : k ++ (before ++ ':' :: (after ++ t ++ (blank ++ ',' :: (blank' ++ rest)))) =
          k ++ (before ++ ':' :: (after ++ t)) ++ (blank ++ ',' :: blank') ++ rest := by
        simp
      rw [hs]
      refine hmembers.map (fun object => ((key, v) :: object.1, object.2)) _ ?_ ?_
      · rintro ⟨members, ending⟩ u ⟨rfl, u, hu, rfl⟩
        exact ⟨rfl, _, .next hmember hblank hblank' hu, by simp⟩
      · rintro ⟨members, ending⟩ hwhole
        rw [MembersWhole, Node.isWhole_object_iff] at hwhole ⊢
        exact ⟨fun m hm => hwhole.1 m (List.mem_cons_of_mem _ hm), hwhole.2⟩
termination_by steps

end

/-! ### Documents -/

theorem Separated.exists_of_mem {α : Type} {part : α → List Char → Prop} {as : List α}
    {s : List Char} (h : Separated part as s) : ∀ a ∈ as, ∃ t, part a t ∧ t.length ≤ s.length := by
  induction h with
  | last ha _ => simpa using ⟨_, ha, by simp⟩
  | next ha _ _ _ ih =>
    refine List.forall_mem_cons.mpr ⟨⟨_, ha, by simp⟩, fun b hb => ?_⟩
    obtain ⟨t, ht, hlength⟩ := ih b hb
    exact ⟨t, ht, by simp only [List.length_append, List.length_cons]; omega⟩

/-- A value that a text spells has no fault. -/
theorem Node.Spelled.isWhole {v : Node} {s : List Char} (h : v.Spelled s) : v.IsWhole := by
  cases h with
  | null => rfl
  | boolean => rfl
  | number _ => rfl
  | string hraw =>
    obtain ⟨-⟩ := hraw
    rfl
  | emptyArray _ => rfl
  | array _ hitems =>
    rw [Node.isWhole_array_iff]
    refine ⟨fun v hv => ?_, rfl⟩
    obtain ⟨t, ht, hlength⟩ := hitems.exists_of_mem v hv
    exact ht.isWhole
  | emptyObject _ => rfl
  | object _ hmembers =>
    rw [Node.isWhole_object_iff]
    refine ⟨fun m hm => ?_, rfl⟩
    obtain ⟨t, ht, hlength⟩ := hmembers.exists_of_mem m hm
    obtain @⟨key, v, k, t, before, after, ⟨-⟩, -, -, hv⟩ := ht
    exact ⟨rfl, hv.isWhole⟩
termination_by s.length
decreasing_by
  all_goals simp only [List.length_append, List.length_cons] at *; omega

/-- A text that is read to its end is a document. -/
theorem spells_of_read {text : String} {node : Node} {after : List Char}
    (h : read text.toList = (node, some after)) (hafter : Blank after) : Spells text node := by
  have hread := readValue_readFrom _ text.toList (Nat.le_succ _)
  rw [← read.eq_def, h] at hread
  obtain ⟨⟨before, s, hbefore, hs, rfl⟩, htext⟩ := hread
  exact ⟨before, s, after, hbefore, hs, hafter, by rw [htext, List.append_assoc]⟩

/-- A text is a document in one way only. -/
theorem Spells.unique {text : String} {node node' : Node} (h : Spells text node)
    (h' : Spells text node') : node = node' := by
  obtain ⟨after, -, hread⟩ := read_spells h
  obtain ⟨after', -, hread'⟩ := read_spells h'
  exact (Prod.mk.inj (hread.symm.trans hread')).1

end Scaffold.Json

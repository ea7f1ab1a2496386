import Mathlib.Algebra.Order.Ring.Nat
import Mathlib.Data.List.TakeWhile
import Scaffold.Command.Arguments

/-!
# Spellings of a command

The option and the flag of a command can be spelled in many ways, in any order, and joined. What is
said does not depend on the spelling: arguments that are put together from phrases mean the path
that was given, if any, and whether the flag was, and they are refused exactly if the option or the
flag was given more than once.

Reading is not that simple step by step. A path in an argument of its own is not looked at before
the next option is met, so behind it the progress says less than the arguments. What is carried from
phrase to phrase is therefore not the progress but what it comes to when its pending part is settled
(`Progress.Says`), and the conflict that a phrase causes may be found with a later one.

## Main definitions

* `Phrase`, `Phrase.arguments`: what is said at a time, and the arguments that say it.
* `Said`: what was said so far, and what comes of it.
* `CommandSyntax.Lawful`: the spellings of a command can be told apart.

## Main results

* `CommandSyntax.Lawful.readArguments_phrase`: a phrase is read.
* `CommandSyntax.Lawful.readArguments_phrases`: all phrases are read.
* `ofArguments_phrases`: the commands that arguments made of phrases spell.
-/

namespace Scaffold

/-! ### Phrases -/

/-- How a path is joined to the short spelling of an option. -/
inductive Joint where
  | apart
  | attached
  | equals
  deriving DecidableEq, Repr

/-- What is said at a time: a flag or an option in its long spelling, or in its short one, where an
option may follow flags. -/
inductive Phrase where
  | longFlag
  | longOption (path : String) (equals : Bool)
  | flags (more : Nat)
  | flagsOption (count : Nat) (path : String) (joint : Joint)
  deriving DecidableEq, Repr

namespace Phrase

/-- The path that is given. -/
def path? : Phrase → Option String
  | longFlag | flags _ => none
  | longOption path _ | flagsOption _ path _ => some path

/-- How many times the flag is given. -/
def flagCount : Phrase → Nat
  | longFlag => 1
  | longOption _ _ => 0
  | flags more => more + 1
  | flagsOption count _ _ => count

/-- The arguments that say a phrase. -/
def arguments (c : CommandSyntax) : Phrase → List String
  | longFlag => ["--" ++ c.flagLong]
  | longOption path false => ["--" ++ c.optionLong, path]
  | longOption path true => ["--" ++ c.optionLong ++ "=" ++ path]
  | flags more => ["-" ++ String.ofList (List.replicate (more + 1) c.flagShort)]
  | flagsOption count path joint =>
    let short := "-" ++ String.ofList (List.replicate count c.flagShort ++ [c.optionShort])
    match joint with
    | .apart => [short, path]
    | .attached => [short ++ path]
    | .equals => [short ++ "=" ++ path]

example : [flagsOption 0 "P" .apart, flagsOption 0 "P" .attached, flagsOption 0 "P" .equals,
    longOption "P" false, longOption "P" true, flagsOption 1 "P" .attached, flags 0, longFlag].map
      (arguments generateSyntax) =
    [["-c", "P"], ["-cP"], ["-c=P"], ["--config", "P"], ["--config=P"], ["-vcP"], ["-v"],
      ["--verbose"]] := by decide

end Phrase

/-- A path that can stand in any spelling: it has characters, and does not start with a dash or an
equals sign. -/
def IsPlainPath (path : String) : Prop :=
  ∃ c rest, path.toList = c :: rest ∧ c ≠ '-' ∧ c ≠ '='

theorem IsPlainPath.ne_empty {path : String} (h : IsPlainPath path) : path ≠ "" := by
  obtain ⟨c, rest, hlist, -⟩ := h
  rintro rfl
  cases hlist

/-! ### What was said -/

/-- What was said: the paths in order, and how many times the flag was given. -/
structure Said where
  paths : List String
  flags : Nat

namespace Said

/-- More was said. -/
def add (s : Said) (paths : List String) (flags : Nat) : Said :=
  ⟨s.paths ++ paths, s.flags + flags⟩

/-- Neither was said twice. -/
def IsClear (s : Said) : Prop :=
  s.paths.length ≤ 1 ∧ s.flags ≤ 1

instance (s : Said) : Decidable s.IsClear :=
  inferInstanceAs (Decidable (_ ∧ _))

/-- The progress that was made, if neither was said twice. -/
def progress (s : Said) : Progress :=
  ⟨s.paths.head?, decide (0 < s.flags), none⟩

/-- What comes of it: progress, or a conflict. -/
def outcome (s : Said) : Except ArgumentError Progress :=
  if s.IsClear then .ok s.progress else .error .conflict

variable {s : Said}

theorem outcome_of_isClear (h : s.IsClear) : s.outcome = .ok s.progress :=
  if_pos h

theorem outcome_of_not_isClear (h : ¬ s.IsClear) : s.outcome = .error .conflict :=
  if_neg h

theorem add_zero (s : Said) : s.add [] 0 = s := by
  rw [add, List.append_nil, Nat.add_zero]

theorem add_add (s : Said) (paths paths' : List String) (flags flags' : Nat) :
    (s.add paths flags).add paths' flags' = s.add (paths ++ paths') (flags + flags') := by
  simp only [add, List.append_assoc, Nat.add_assoc]

/-- What was said twice is not taken back. -/
theorem isClear_of_add {paths : List String} {flags : Nat} (h : (s.add paths flags).IsClear) :
    s.IsClear := by
  obtain ⟨hpaths, hflags⟩ := h
  simp only [add, List.length_append] at hpaths hflags
  exact ⟨by omega, by omega⟩

end Said

/-- Progress says what was said: with its pending part settled it is what comes of that. -/
def Progress.Says (p : Progress) (s : Said) : Prop :=
  p.resolve = s.outcome

/-! ### What comes of a phrase -/

section

variable {p : Progress} {s : Said} {paths paths' : List String} {flags flags' : Nat}

/-- If a reading comes to what was said, then what is read next starts from there. -/
theorem bind_next_eq_outcome {r : Except ArgumentError Progress}
    {next : Progress → Except ArgumentError Progress} (hr : r.bind Progress.resolve = s.outcome)
    (hnext : ∀ p, p.Says s → next p = (s.add paths flags).outcome) :
    r.bind next = (s.add paths flags).outcome := by
  cases r with
  | ok p => exact hnext p hr
  | error e =>
    have hnot : ¬ s.IsClear := by
      intro h
      rw [Said.outcome_of_isClear h] at hr
      cases hr
    rw [Said.outcome_of_not_isClear hnot] at hr
    rw [Said.outcome_of_not_isClear fun h => hnot (Said.isClear_of_add h), ← hr]
    rfl

namespace Progress

/-- What is met is met after the pending part is settled, so it only matters what it does to settled
progress. -/
theorem Says.bind_eq_outcome (h : p.Says s) {meet : Progress → Except ArgumentError Progress}
    (hmeet : s.IsClear → (meet s.progress).bind resolve = (s.add paths flags).outcome) :
    (p.resolve.bind meet).bind resolve = (s.add paths flags).outcome := by
  unfold Says at h
  by_cases hs : s.IsClear
  · rw [h, Said.outcome_of_isClear hs]
    exact hmeet hs
  · rw [h, Said.outcome_of_not_isClear hs,
      Said.outcome_of_not_isClear fun hclear => hs (Said.isClear_of_add hclear)]
    rfl

/-- The flag is met some times in a row. -/
def meetFlags : Nat → Progress → Except ArgumentError Progress
  | 0, p => .ok p
  | count + 1, p => p.meetFlag.bind (meetFlags count)

/-- The option is met, and then its path in an argument of its own. -/
def meetApart (p : Progress) (path : String) : Except ArgumentError Progress :=
  p.meetOption.bind fun p => CommandSyntax.readPlain p path

theorem Says.bind_meetFlag (h : p.Says s) :
    p.meetFlag.bind resolve = (s.add [] 1).outcome := by
  refine h.bind_eq_outcome fun hs => ?_
  by_cases hflag : 0 < s.flags
  · have hnot : ¬ (s.add [] 1).IsClear := fun hclear => absurd hclear.2 (by
      simp only [Said.add]
      omega)
    rw [Said.outcome_of_not_isClear hnot]
    simp [Said.progress, hflag, Except.bind]
  · have hclear : (s.add [] 1).IsClear :=
      ⟨by simpa [Said.add] using hs.1, by simp only [Said.add]; omega⟩
    rw [Said.outcome_of_isClear hclear]
    simp [Said.progress, Said.add, hflag, Except.bind, resolve]

theorem bind_bind (r : Except ArgumentError Progress)
    (f g : Progress → Except ArgumentError Progress) :
    (r.bind f).bind g = r.bind fun p => (f p).bind g := by
  cases r <;> rfl

theorem Says.bind_meetFlags (h : p.Says s) (count : Nat) :
    (meetFlags count p).bind resolve = (s.add [] count).outcome := by
  induction count generalizing p s with
  | zero => rwa [Said.add_zero]
  | succ count ih =>
    have hnext : (p.meetFlag.bind fun q => (meetFlags count q).bind resolve) =
        ((s.add [] 1).add [] count).outcome :=
      bind_next_eq_outcome h.bind_meetFlag fun q hq => ih hq
    rwa [Said.add_add, List.append_nil, Nat.add_comm 1 count, ← bind_bind] at hnext

/-- A path is settled, unless there is one. -/
theorem settle_progress (hs : s.IsClear) {path : String} (hpath : path ≠ "") :
    s.progress.settle path = (s.add [path] 0).outcome := by
  obtain ⟨hpaths, hflags⟩ := hs
  cases hlist : s.paths with
  | nil =>
    have hclear : (s.add [path] 0).IsClear := ⟨by simp [Said.add, hlist], by simpa [Said.add]⟩
    rw [Said.outcome_of_isClear hclear]
    simp [settle, Said.progress, Said.add, hlist, hpath]
  | cons other rest =>
    have hnot : ¬ (s.add [path] 0).IsClear := fun hclear => absurd hclear.1 (by
      simp [Said.add, hlist])
    rw [Said.outcome_of_not_isClear hnot]
    simp [settle, Said.progress, hlist]

theorem bind_resolve_outcome (s : Said) : s.outcome.bind resolve = s.outcome := by
  by_cases hs : s.IsClear
  · rw [Said.outcome_of_isClear hs]
    rfl
  · rw [Said.outcome_of_not_isClear hs]
    rfl

theorem Says.bind_meetAttached (h : p.Says s) {path : String} (hpath : path ≠ "") :
    (p.meetAttached path).bind resolve = (s.add [path] 0).outcome := by
  refine h.bind_eq_outcome fun hs => ?_
  rw [settle_progress hs hpath, bind_resolve_outcome]

theorem Says.bind_meetApart (h : p.Says s) {path : String} (hpath : path ≠ "") :
    (p.meetApart path).bind resolve = (s.add [path] 0).outcome := by
  rw [meetApart, meetOption]
  refine (congrArg (Except.bind · resolve) (bind_bind p.resolve _ _)).trans
    (h.bind_eq_outcome fun hs => ?_)
  rw [← settle_progress hs hpath]
  rfl

end Progress

end

namespace Phrase

/-- A phrase is met, in whatever spelling. -/
def meet (p : Progress) : Phrase → Except ArgumentError Progress
  | longFlag => p.meetFlag
  | longOption path false => p.meetApart path
  | longOption path true => p.meetAttached path
  | flags more => p.meetFlags (more + 1)
  | flagsOption count path .apart => (p.meetFlags count).bind (·.meetApart path)
  | flagsOption count path .attached => (p.meetFlags count).bind (·.meetAttached path)
  | flagsOption count path .equals => (p.meetFlags count).bind (·.meetAttached path)

/-- With a phrase, its path and its flags are said. -/
theorem bind_meet {p : Progress} {s : Said} (h : p.Says s) {phrase : Phrase}
    (hpaths : ∀ path ∈ phrase.path?, path ≠ "") :
    (phrase.meet p).bind Progress.resolve =
      (s.add phrase.path?.toList phrase.flagCount).outcome := by
  cases phrase with
  | longFlag => exact h.bind_meetFlag
  | longOption path equals =>
    have hpath : path ≠ "" := hpaths path rfl
    cases equals with
    | false => exact h.bind_meetApart hpath
    | true => exact h.bind_meetAttached hpath
  | flags more => exact h.bind_meetFlags (more + 1)
  | flagsOption count path joint =>
    have hpath : path ≠ "" := hpaths path rfl
    have hflags := h.bind_meetFlags count
    have hsaid : s.add [path] count = (s.add [] count).add [path] 0 := by
      rw [Said.add_add, List.nil_append, Nat.add_zero]
    change (meet p _).bind _ = (s.add [path] count).outcome
    rw [hsaid]
    cases joint with
    | apart =>
      rw [meet, Progress.bind_bind]
      exact bind_next_eq_outcome hflags fun q hq => hq.bind_meetApart hpath
    | attached | equals =>
      rw [meet, Progress.bind_bind]
      exact bind_next_eq_outcome hflags fun q hq => hq.bind_meetAttached hpath

end Phrase

/-! ### How a phrase is read -/

/-- The spellings of a command can be told apart: the short ones are no dashes and not the same, and
the long ones are not empty, have no equals sign in them and are not the same. -/
structure CommandSyntax.Lawful (c : CommandSyntax) : Prop where
  optionShort : c.optionShort ≠ '-'
  flagShort : c.flagShort ≠ '-'
  short : c.flagShort ≠ c.optionShort
  optionLong : c.optionLong ≠ "" ∧ '=' ∉ c.optionLong.toList
  flagLong : c.flagLong ≠ "" ∧ '=' ∉ c.flagLong.toList
  long : c.flagLong ≠ c.optionLong

theorem generateSyntax_lawful : generateSyntax.Lawful :=
  ⟨by decide, by decide, by decide, by decide, by decide, by decide⟩

theorem initSyntax_lawful : initSyntax.Lawful :=
  ⟨by decide, by decide, by decide, by decide, by decide, by decide⟩

theorem exists_toList_eq_cons {s : String} (h : s ≠ "") : ∃ c rest, s.toList = c :: rest :=
  List.exists_cons_of_ne_nil (String.toList_eq_nil_iff.not.mpr h)

theorem splitValue_of_not_mem {name : List Char} (h : '=' ∉ name) :
    splitValue name = (String.ofList name, none) := by
  have hdrop : name.dropWhile (· != '=') = [] :=
    List.dropWhile_eq_nil_iff.mpr fun c hc => bne_iff_ne.mpr fun heq => h (heq ▸ hc)
  rw [splitValue, hdrop]

theorem splitValue_append {name : List Char} (h : '=' ∉ name) (value : List Char) :
    splitValue (name ++ '=' :: value) = (String.ofList name, some (String.ofList value)) := by
  have hname : ∀ c ∈ name, (c != '=') = true :=
    fun c hc => bne_iff_ne.mpr fun heq => h (heq ▸ hc)
  have hdrop : (name ++ '=' :: value).dropWhile (· != '=') = '=' :: value := by
    rw [List.dropWhile_append_of_pos hname]
    rfl
  have htake : (name ++ '=' :: value).takeWhile (· != '=') = name := by
    rw [List.takeWhile_append_of_pos hname]
    simp
  rw [splitValue, hdrop, htake]

namespace CommandSyntax

variable {c : CommandSyntax} {p : Progress} {argument : String} {rest : List String}

theorem readArguments_long {s : Char} {long : List Char}
    (h : argument.toList = '-' :: '-' :: s :: long) :
    c.readArguments p (argument :: rest) =
      (c.readLong p (s :: long)).bind fun p => c.readArguments p rest := by
  rw [readArguments, h]
  rfl

theorem readArguments_short {s : Char} {short : List Char}
    (h : argument.toList = '-' :: s :: short) (hs : s ≠ '-') :
    c.readArguments p (argument :: rest) =
      (c.readShort p (s :: short)).bind fun p => c.readArguments p rest := by
  rw [readArguments, h]
  split
  · simp_all
  · simp_all
  · simp_all
  · simp_all

theorem readArguments_plain {path : String} (h : IsPlainPath path) :
    c.readArguments p (path :: rest) =
      (readPlain p path).bind fun p => c.readArguments p rest := by
  obtain ⟨s, l, hlist, hs, -⟩ := h
  rw [readArguments, hlist]
  split
  · simp_all
  · simp_all
  · simp_all
  · rfl

namespace Lawful

variable (hc : c.Lawful)
include hc

theorem readLong_flag : c.readLong p c.flagLong.toList = p.meetFlag := by
  rw [readLong, splitValue_of_not_mem hc.flagLong.2]
  simp [hc.long]

theorem readLong_option : c.readLong p c.optionLong.toList = p.meetOption := by
  rw [readLong, splitValue_of_not_mem hc.optionLong.2]
  simp

theorem readLong_option_equals (path : String) :
    c.readLong p (c.optionLong.toList ++ '=' :: path.toList) = p.meetAttached path := by
  rw [readLong, splitValue_append hc.optionLong.2]
  simp

theorem readShort_flag (tail : List Char) :
    c.readShort p (c.flagShort :: tail) = p.meetFlag.bind fun p => c.readShort p tail := by
  rw [readShort.eq_def]
  dsimp only
  rw [if_neg hc.short, if_pos rfl]
  cases p.meetFlag <;> rfl

theorem readShort_flags (count : Nat) (tail : List Char) :
    c.readShort p (List.replicate count c.flagShort ++ tail) =
      (p.meetFlags count).bind fun p => c.readShort p tail := by
  induction count generalizing p with
  | zero => rfl
  | succ count ih =>
    rw [List.replicate_succ, List.cons_append, hc.readShort_flag, Progress.meetFlags,
      Progress.bind_bind]
    exact congrArg p.meetFlag.bind (funext fun q => ih)

end Lawful

theorem readShort_option : c.readShort p [c.optionShort] = p.meetOption := by
  rw [readShort, if_pos rfl]

theorem readShort_option_equals (path : String) :
    c.readShort p (c.optionShort :: '=' :: path.toList) = p.meetAttached path := by
  rw [readShort, if_pos rfl, String.ofList_toList]

theorem readShort_option_attached {path : String} (h : IsPlainPath path) :
    c.readShort p (c.optionShort :: path.toList) = p.meetAttached path := by
  obtain ⟨s, l, hlist, -, hs⟩ := h
  rw [readShort.eq_def]
  dsimp only
  rw [if_pos rfl]
  split
  next heq =>
    rw [hlist] at heq
    cases heq
  next value heq =>
    rw [hlist] at heq
    exact absurd (List.cons.inj heq).1 hs
  next => rw [String.ofList_toList]

/-- An argument with one dash is read as joined short spellings. -/
theorem readArguments_dash {text : String} {s : Char} {short : List Char}
    (h : text.toList = s :: short) (hs : s ≠ '-') :
    c.readArguments p (("-" ++ text) :: rest) =
      (c.readShort p (s :: short)).bind fun p => c.readArguments p rest :=
  readArguments_short (by simp [h]) hs

/-- An argument with two dashes is read as a long spelling. -/
theorem readArguments_dashes {text : String} {s : Char} {long : List Char}
    (h : text.toList = s :: long) :
    c.readArguments p (("--" ++ text) :: rest) =
      (c.readLong p (s :: long)).bind fun p => c.readArguments p rest :=
  readArguments_long (by simp [h])

/-- An option in an argument and its path in the next one are read. -/
theorem bind_meetOption_readPlain {path : String} (h : IsPlainPath path) :
    (p.meetOption.bind fun p => c.readArguments p (path :: rest)) =
      (p.meetApart path).bind fun p => c.readArguments p rest := by
  rw [Progress.meetApart, Progress.bind_bind]
  exact congrArg p.meetOption.bind (funext fun q => readArguments_plain h)

namespace Lawful

variable (hc : c.Lawful)
include hc

/-- An argument that joins flags is read. -/
theorem readArguments_flags {text : String} {more : Nat}
    (h : text.toList = List.replicate (more + 1) c.flagShort) :
    c.readArguments p (("-" ++ text) :: rest) =
      (p.meetFlags (more + 1)).bind fun p => c.readArguments p rest := by
  rw [readArguments_dash h hc.flagShort, ← List.replicate_succ,
    ← List.append_nil (List.replicate _ _), hc.readShort_flags, Progress.bind_bind]
  rfl

/-- An argument that joins flags and the option is read, up to what is attached to the option. -/
theorem readArguments_flagsOption {text : String} {count : Nat} {tail : List Char}
    (h : text.toList = List.replicate count c.flagShort ++ c.optionShort :: tail) :
    c.readArguments p (("-" ++ text) :: rest) =
      (p.meetFlags count).bind fun p =>
        (c.readShort p (c.optionShort :: tail)).bind fun p => c.readArguments p rest := by
  obtain ⟨s, short, hlist, hs⟩ : ∃ s short, text.toList = s :: short ∧ s ≠ '-' := by
    cases count with
    | zero => exact ⟨_, _, h, hc.optionShort⟩
    | succ count => exact ⟨_, _, h, hc.flagShort⟩
  rw [readArguments_dash hlist hs, ← hlist, h, hc.readShort_flags, Progress.bind_bind]

/-- The arguments of a phrase are read as what is met with it. -/
theorem readArguments_phrase {phrase : Phrase} (hpath : ∀ path ∈ phrase.path?, IsPlainPath path) :
    c.readArguments p (phrase.arguments c ++ rest) =
      (phrase.meet p).bind fun p => c.readArguments p rest := by
  cases phrase with
  | longFlag =>
    obtain ⟨s, long, hlist⟩ := exists_toList_eq_cons hc.flagLong.1
    change c.readArguments p (("--" ++ c.flagLong) :: rest) = _
    rw [readArguments_dashes hlist, ← hlist, hc.readLong_flag]
    rfl
  | longOption path equals =>
    obtain ⟨s, long, hlist⟩ := exists_toList_eq_cons hc.optionLong.1
    cases equals with
    | false =>
      change c.readArguments p (("--" ++ c.optionLong) :: path :: rest) = _
      rw [readArguments_dashes hlist, ← hlist, hc.readLong_option,
        bind_meetOption_readPlain (hpath path rfl)]
      rfl
    | true =>
      have htext : (c.optionLong ++ ("=" ++ path)).toList =
          s :: (long ++ '=' :: path.toList) := by
        simp [hlist]
      change c.readArguments p (("--" ++ c.optionLong ++ "=" ++ path) :: rest) = _
      rw [String.append_assoc, String.append_assoc, readArguments_dashes htext,
        ← List.cons_append, ← hlist, hc.readLong_option_equals]
      rfl
  | flags more => exact hc.readArguments_flags String.toList_ofList
  | flagsOption count path joint =>
    have hplain : IsPlainPath path := hpath path rfl
    cases joint with
    | apart =>
      refine (hc.readArguments_flagsOption String.toList_ofList).trans ?_
      rw [Phrase.meet, Progress.bind_bind]
      refine congrArg (p.meetFlags count).bind (funext fun q => ?_)
      rw [readShort_option, ← bind_meetOption_readPlain hplain]
      rfl
    | attached =>
      have htext : (String.ofList (List.replicate count c.flagShort ++ [c.optionShort]) ++
          path).toList = List.replicate count c.flagShort ++ c.optionShort :: path.toList := by
        simp
      change c.readArguments p (("-" ++ String.ofList _ ++ path) :: rest) = _
      rw [String.append_assoc, hc.readArguments_flagsOption htext, Phrase.meet,
        Progress.bind_bind]
      simp only [readShort_option_attached hplain]
    | equals =>
      have htext : (String.ofList (List.replicate count c.flagShort ++ [c.optionShort]) ++
          ("=" ++ path)).toList =
          List.replicate count c.flagShort ++ c.optionShort :: '=' :: path.toList := by
        simp
      change c.readArguments p (("-" ++ String.ofList _ ++ "=" ++ path) :: rest) = _
      rw [String.append_assoc, String.append_assoc, hc.readArguments_flagsOption htext,
        Phrase.meet, Progress.bind_bind]
      simp only [readShort_option_equals]

/-- Phrases are read one behind the other. What was said before is kept, and what comes of
everything does not depend on how it was said. -/
theorem readArguments_phrases {s : Said} (h : p.Says s) {phrases : List Phrase}
    (hpaths : ∀ phrase ∈ phrases, ∀ path ∈ phrase.path?, IsPlainPath path) :
    c.readArguments p (phrases.flatMap (Phrase.arguments c)) =
      (s.add (phrases.filterMap Phrase.path?) (phrases.map Phrase.flagCount).sum).outcome := by
  induction phrases generalizing p s with
  | nil =>
    rw [List.filterMap_nil, List.map_nil, List.sum_nil, Said.add_zero]
    exact h
  | cons phrase phrases ih =>
    obtain ⟨hphrase, hphrases⟩ := List.forall_mem_cons.mp hpaths
    have hadd : s.add ((phrase :: phrases).filterMap Phrase.path?)
        ((phrase :: phrases).map Phrase.flagCount).sum =
        (s.add phrase.path?.toList phrase.flagCount).add (phrases.filterMap Phrase.path?)
          (phrases.map Phrase.flagCount).sum := by
      rw [Said.add_add]
      cases hpath : phrase.path? <;> simp [hpath]
    rw [List.flatMap_cons, hc.readArguments_phrase hphrase, hadd]
    exact bind_next_eq_outcome
      (phrase.bind_meet h fun path hpath => (hphrase path hpath).ne_empty)
      fun q hq => ih hq hphrases

end Lawful

end CommandSyntax

/-! ### Commands -/

/-- What phrases say together. -/
def Said.ofPhrases (phrases : List Phrase) : Said :=
  ⟨phrases.filterMap Phrase.path?, (phrases.map Phrase.flagCount).sum⟩

theorem CommandSyntax.Lawful.readArguments_none_phrases {c : CommandSyntax} (hc : c.Lawful)
    {phrases : List Phrase} (hpaths : ∀ phrase ∈ phrases, ∀ path ∈ phrase.path?, IsPlainPath path) :
    c.readArguments .none (phrases.flatMap (Phrase.arguments c)) =
      (Said.ofPhrases phrases).outcome := by
  have hnone : Progress.none.Says ⟨[], 0⟩ := rfl
  rw [hc.readArguments_phrases hnone hpaths, Said.add, List.nil_append, Nat.zero_add]
  rfl

/-- What a command comes to that takes its path and its flag from what was said. -/
theorem Said.map_outcome (s : Said) (command : Path → Bool → Command) :
    (s.outcome.map fun p => command ⟨p.path.getD standardSettingsFile⟩ p.flag) =
      if s.IsClear then
        .ok (command ⟨s.paths.head?.getD standardSettingsFile⟩ (decide (0 < s.flags)))
      else .error .conflict := by
  rw [outcome]
  split <;> rfl

/-- The arguments of a command may spell its option and its flag as they like, in any order, apart
or joined. If neither is given twice, then the command has the path that is given, or else the
standard one, and the flag if it is given. If one of them is given twice, then the arguments are
refused. -/
theorem ofArguments_phrases (phrases : List Phrase)
    (hpaths : ∀ phrase ∈ phrases, ∀ path ∈ phrase.path?, IsPlainPath path) :
    let paths := phrases.filterMap Phrase.path?
    let flags := (phrases.map Phrase.flagCount).sum
    let path : Path := ⟨paths.head?.getD standardSettingsFile⟩
    (Command.ofArguments ("generate" :: phrases.flatMap (Phrase.arguments generateSyntax)) =
      if paths.length ≤ 1 ∧ flags ≤ 1 then .ok (.generate path (decide (0 < flags)))
      else .error .conflict) ∧
    (Command.ofArguments ("init" :: phrases.flatMap (Phrase.arguments initSyntax)) =
      if paths.length ≤ 1 ∧ flags ≤ 1 then .ok (.init path (decide (0 < flags)))
      else .error .conflict) := by
  intro paths flags path
  constructor
  · rw [Command.ofArguments, if_pos rfl,
      generateSyntax_lawful.readArguments_none_phrases hpaths]
    exact (Said.ofPhrases phrases).map_outcome .generate
  · rw [Command.ofArguments, if_neg (by decide), if_pos rfl,
      initSyntax_lawful.readArguments_none_phrases hpaths]
    exact (Said.ofPhrases phrases).map_outcome .init

theorem ofArguments_phrases_twice :
    (∀ phrase ∈ [Phrase.flagsOption 1 "uml.toml" .attached, .longOption "other.toml" true],
      ∀ path ∈ phrase.path?, IsPlainPath path) ∧
    Command.ofArguments ["generate", "-vcuml.toml"] = .ok (.generate ⟨"uml.toml"⟩ true) ∧
    Command.ofArguments ["init", "-fouml.toml", "--output=other.toml"] = .error .conflict := by
  have huml : IsPlainPath "uml.toml" := ⟨_, _, rfl, by decide, by decide⟩
  have hother : IsPlainPath "other.toml" := ⟨_, _, rfl, by decide, by decide⟩
  have hpaths : ∀ phrase ∈ [Phrase.flagsOption 1 "uml.toml" .attached,
      .longOption "other.toml" true], ∀ path ∈ phrase.path?, IsPlainPath path := by
    simpa [Phrase.path?] using And.intro huml hother
  refine ⟨hpaths, ?_, (ofArguments_phrases _ hpaths).2⟩
  exact (ofArguments_phrases [.flagsOption 1 "uml.toml" .attached]
    fun phrase hmem => hpaths phrase (List.mem_cons.mpr (.inl (List.mem_singleton.mp hmem)))).1

end Scaffold

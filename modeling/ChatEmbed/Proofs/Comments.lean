import ChatEmbed.Line.Comment
import ChatEmbed.Substitution
import Mathlib.Data.List.Induction

/-!
# Where a comment starts

The comment of a line is taken off character by character, and escapes are undone on the way.  What
comes of it can be said by positions alone: the comment starts at the first delimiter without an
escape mark right before it, and in what stands before that every escaped delimiter loses its mark.

* `Comment.StartsAt` says that a comment may start at a position, `Comment.Free` that it cannot
  start anywhere in a text.
* `Comment.unescape` turns the escaped delimiters of a text into delimiters.
* `Comment.content_append` is the one induction along a line.  It goes through a free part and
  leaves the rest of the line as it is.
* `Comment.strip_at_first_start` says what taking off a comment does to a line, and that this undoes
  `Comment.escape`.
-/

set_option autoImplicit false

namespace ChatEmbed

/-! ## The first visible character -/

/-- The first character of a text that is not blank. -/
def Text.firstVisible? (s : Text) : Option Char :=
  s.find? fun c ↦ !isBlank c

theorem Text.head?_trimStart (s : Text) : (trimStart s).head? = firstVisible? s := by
  rw [trimStart, firstVisible?]
  induction s with
  | nil => rfl
  | cons c rest ih =>
    rw [List.dropWhile_cons, List.find?_cons]
    cases isBlank c
    · rfl
    · exact ih

theorem Text.firstVisible?_cons (c : Char) (rest : Text) :
    firstVisible? (c :: rest) = if isBlank c then firstVisible? rest else some c := by
  rw [firstVisible?, firstVisible?, List.find?_cons]
  cases isBlank c <;> rfl

theorem Text.firstVisible?_of_visible {c : Char} (hc : isBlank c = false) (rest : Text) :
    firstVisible? (c :: rest) = some c := by
  rw [firstVisible?_cons, hc]
  rfl

namespace Comment

theorem isCommandLine_iff {line : Text} :
    isCommandLine line = true ↔ Text.firstVisible? line = some commandMark := by
  rw [isCommandLine, beq_iff_eq, Text.head?_trimStart]

theorem strip_of_command {line : Text} (h : Text.firstVisible? line = some commandMark) :
    strip line = (line, false) :=
  strip_of_isCommandLine (isCommandLine_iff.mpr h)

theorem strip_of_not_command {line : Text} (h : Text.firstVisible? line ≠ some commandMark) :
    strip line = content line :=
  strip_of_not_isCommandLine (Bool.eq_false_iff.mpr (mt isCommandLine_iff.mp h))

/-! ## Positions -/

/-- A comment may start at the position: there is a delimiter without an escape mark right before
it. -/
def StartsAt (s : Text) (i : Nat) : Prop :=
  s[i]? = some delimiter ∧ (s.take i).getLast? ≠ some escapeMark

instance (s : Text) (i : Nat) : Decidable (StartsAt s i) :=
  inferInstanceAs (Decidable (_ ∧ _))

/-- No comment starts in the text. -/
def Free (s : Text) : Prop :=
  ∀ i, ¬StartsAt s i

theorem startsAt_zero {s : Text} : StartsAt s 0 ↔ s.head? = some delimiter := by
  rw [StartsAt, List.take_zero, ← List.head?_eq_getElem?]
  exact and_iff_left (by decide)

/-- The character before a text only counts for a delimiter that the text begins with. -/
theorem startsAt_succ {c : Char} {rest : Text} {i : Nat} :
    StartsAt (c :: rest) (i + 1) ↔ StartsAt rest i ∧ ¬(i = 0 ∧ c = escapeMark) := by
  rw [StartsAt, StartsAt, List.getElem?_cons_succ, List.take_succ_cons, List.getLast?_cons,
    and_assoc]
  refine and_congr_right fun hdelimiter ↦ ?_
  cases i with
  | zero => simp [escapeMark]
  | succ i =>
    -- The position is not the first one of the rest, so what stands before it ends as before.
    have hlength : i < rest.length := by
      have := (List.getElem?_eq_some_iff.mp hdelimiter).1
      omega
    have htake : rest.take (i + 1) ≠ [] := by
      rw [← List.length_pos_iff, List.length_take]
      omega
    rw [List.getLast?_eq_some_getLast htake]
    simp

theorem startsAt_take {s : Text} {i j : Nat} (h : j < i) :
    StartsAt (s.take i) j ↔ StartsAt s j := by
  rw [StartsAt, StartsAt, List.getElem?_take, if_pos h, List.take_take,
    Nat.min_eq_left (Nat.le_of_lt h)]

theorem free_take {s : Text} {i : Nat} (h : ∀ j < i, ¬StartsAt s j) :
    Free (s.take i) := by
  intro j hj
  have hlt : j < i := by
    have := (List.getElem?_eq_some_iff.mp hj.1).1
    rw [List.length_take] at this
    omega
  exact h j hlt ((startsAt_take hlt).mp hj)

theorem free_nil : Free [] :=
  fun _ h ↦ absurd h.1 (by simp)

/-- An escaped delimiter does not start a comment. -/
theorem free_escaped {rest : Text} : Free (escapeMark :: delimiter :: rest) ↔ Free rest := by
  constructor
  · intro h i hi
    refine h (i + 2) (startsAt_succ.mpr ⟨startsAt_succ.mpr ⟨hi, ?_⟩, ?_⟩)
    · exact fun hescape ↦ absurd hescape.2 (by decide)
    · exact fun hzero ↦ Nat.succ_ne_zero i hzero.1
  · rintro h (_ | _ | i) hi
    · cases startsAt_zero.mp hi
    · exact (startsAt_succ.mp hi).2 ⟨rfl, rfl⟩
    · exact h i (startsAt_succ.mp (startsAt_succ.mp hi).1).1

theorem free_cons {c : Char} {rest : Text}
    (plain : c = escapeMark → rest.head? ≠ some delimiter) :
    Free (c :: rest) ↔ c ≠ delimiter ∧ Free rest := by
  constructor
  · refine fun h ↦ ⟨?_, fun i hi ↦ h (i + 1) (startsAt_succ.mpr ⟨hi, ?_⟩)⟩
    · rintro rfl
      exact h 0 (startsAt_zero.mpr rfl)
    · rintro ⟨rfl, hc⟩
      exact plain hc (startsAt_zero.mp hi)
  · rintro ⟨hc, h⟩ (_ | i) hi
    · exact hc (Option.some.inj (startsAt_zero.mp hi))
    · exact h i (startsAt_succ.mp hi).1

/-! ## Undoing escapes -/

/-- The pair that turns an escaped delimiter into a delimiter. -/
def escapePair : Token.Pair :=
  ([escapeMark, delimiter], [delimiter])

/-- The text with every escaped delimiter turned into a delimiter. -/
def unescape (s : Text) : Text :=
  Token.replaceAll [escapePair] s

theorem unescape_nil : unescape [] = [] :=
  Token.replaceAll_nil _

theorem unescape_escaped (rest : Text) :
    unescape (escapeMark :: delimiter :: rest) = delimiter :: unescape rest := by
  have hbegins : Token.firstMatch? [escapePair] ([escapeMark, delimiter] ++ rest) =
      some escapePair := rfl
  exact Token.replaceAll_append_of_some hbegins

theorem unescape_cons {c : Char} {rest : Text}
    (plain : c = escapeMark → rest.head? ≠ some delimiter) :
    unescape (c :: rest) = c :: unescape rest := by
  refine Token.replaceAll_cons_of_none (List.find?_eq_none.mpr ?_)
  rw [List.forall_mem_singleton]
  intro hbegins
  rw [Bool.and_eq_true, List.isPrefixOf_iff_prefix] at hbegins
  obtain ⟨-, tail, htail⟩ := hbegins
  cases htail
  exact plain rfl rfl

/-! ## Along a line -/

/-- Induction on a text in which an escape is one step. -/
theorem escape_induction {motive : Text → Prop} (nil : motive [])
    (escaped : ∀ rest, motive rest → motive (escapeMark :: delimiter :: rest))
    (plain : ∀ c rest, (c = escapeMark → rest.head? ≠ some delimiter) → motive rest →
      motive (c :: rest)) (s : Text) : motive s := by
  induction s using List.twoStepInduction with
  | nil => exact nil
  | singleton c => exact plain c [] (fun _ h ↦ by cases h) nil
  | cons_cons c d rest ihrest ih =>
    by_cases h : c = escapeMark ∧ d = delimiter
    · obtain ⟨rfl, rfl⟩ := h
      exact escaped rest ihrest
    · exact plain c (d :: rest) (fun hc hd ↦ h ⟨hc, Option.some.inj hd⟩) (ih d)

theorem content_escaped (rest : Text) :
    content (escapeMark :: delimiter :: rest) =
      (delimiter :: (content rest).1, (content rest).2) :=
  rfl

theorem content_cons {c : Char} {rest : Text} (hc : c ≠ delimiter)
    (plain : c = escapeMark → rest.head? ≠ some delimiter) :
    content (c :: rest) = (c :: (content rest).1, (content rest).2) := by
  rw [content]
  · exact hc
  · rintro tail rfl rfl
    exact plain rfl rfl

theorem getLast?_cons_of_eq {c : Char} {s : Text} {mark : Char} (h : s.getLast? = some mark) :
    (c :: s).getLast? = some mark := by
  rw [List.getLast?_cons, h]
  rfl

/-- **A free part of a line is kept**, but for the marks of its escapes, and the rest of the line is
read as if it stood alone.  A mark at the end of the part must not meet a delimiter. -/
theorem content_append {part rest : Text} (free : Free part)
    (apart : part.getLast? = some escapeMark → rest.head? ≠ some delimiter) :
    content (part ++ rest) = (unescape part ++ (content rest).1, (content rest).2) := by
  induction part using escape_induction with
  | nil =>
    rw [unescape_nil]
    rfl
  | escaped part ih =>
    have hfurther : content (part ++ rest) = _ :=
      ih (free_escaped.mp free) fun h ↦ apart (getLast?_cons_of_eq (getLast?_cons_of_eq h))
    rw [unescape_escaped, List.cons_append, List.cons_append, content_escaped, hfurther]
    rfl
  | plain c part hplain ih =>
    obtain ⟨hc, hfree⟩ := (free_cons hplain).mp free
    have hplain' : c = escapeMark → (part ++ rest).head? ≠ some delimiter := by
      intro hmark
      cases part with
      | nil => exact apart (congrArg some hmark)
      | cons d part => exact hplain hmark
    have hfurther : content (part ++ rest) = _ := ih hfree fun h ↦ apart (getLast?_cons_of_eq h)
    rw [unescape_cons hplain, List.cons_append, content_cons hc hplain', hfurther]
    rfl

/-- A line in which no comment starts only loses the marks of its escapes. -/
theorem content_of_free {line : Text} (free : Free line) :
    content line = (unescape line, false) := by
  have h : content (line ++ []) = _ := content_append free fun _ h ↦ by cases h
  rwa [content, List.append_nil, List.append_nil] at h

/-- A comment ends the content of a line. -/
theorem content_append_delimiter {part comment : Text} (free : Free part)
    (apart : part.getLast? ≠ some escapeMark) :
    content (part ++ delimiter :: comment) = (unescape part, true) := by
  have hstart : content (delimiter :: comment) = ([], true) := rfl
  rw [content_append free fun h ↦ absurd h apart, hstart, List.append_nil]

/-- **The first position where a comment may start is where it starts.** -/
theorem content_of_startsAt {line : Text} {i : Nat} (starts : StartsAt line i)
    (first : ∀ j < i, ¬StartsAt line j) : content line = (unescape (line.take i), true) := by
  obtain ⟨hi, hget⟩ := List.getElem?_eq_some_iff.mp starts.1
  have hline : line = line.take i ++ delimiter :: line.drop (i + 1) := by
    rw [← hget, ← List.drop_eq_getElem_cons hi, List.take_append_drop]
  conv => lhs; rw [hline]
  exact content_append_delimiter (free_take first) starts.2

/-! ## Escaping -/

theorem escape_delimiter (rest : Text) :
    escape (delimiter :: rest) = escapeMark :: delimiter :: escape rest :=
  if_pos rfl

theorem escape_cons {c : Char} (hc : c ≠ delimiter) (rest : Text) :
    escape (c :: rest) = c :: escape rest :=
  if_neg hc

/-- Escaping leaves nothing but escaped delimiters, so that none stands at the start. -/
theorem head?_escape (s : Text) : (escape s).head? ≠ some delimiter := by
  cases s with
  | nil => exact fun h ↦ by cases h
  | cons c rest =>
    by_cases hc : c = delimiter
    · rw [hc, escape_delimiter]
      exact fun h ↦ absurd (Option.some.inj h) (by decide)
    · rw [escape_cons hc]
      exact fun h ↦ hc (Option.some.inj h)

/-- An escaped text is free, and undoing its escapes gives back the text. -/
theorem free_escape (s : Text) : Free (escape s) ∧ unescape (escape s) = s := by
  induction s with
  | nil => exact ⟨free_nil, unescape_nil⟩
  | cons c rest ih =>
    by_cases hc : c = delimiter
    · rw [hc, escape_delimiter, free_escaped, unescape_escaped, ih.2]
      exact ⟨ih.1, rfl⟩
    · rw [escape_cons hc, free_cons fun _ ↦ head?_escape rest,
        unescape_cons fun _ ↦ head?_escape rest, ih.2]
      exact ⟨⟨hc, ih.1⟩, rfl⟩

theorem getLast?_escape (s : Text) : (escape s).getLast? = s.getLast? := by
  induction s with
  | nil => rfl
  | cons c rest ih =>
    by_cases hc : c = delimiter
    · rw [hc, escape_delimiter, List.getLast?_cons, List.getLast?_cons, List.getLast?_cons, ih]
      rfl
    · rw [escape_cons hc, List.getLast?_cons, List.getLast?_cons, ih]

/-- Escaping a text does not make a command of it, and no comment after it does. -/
theorem firstVisible?_escape_append {s : Text} (h : Text.firstVisible? s ≠ some commandMark)
    {rest : Text} (hrest : Text.firstVisible? rest ≠ some commandMark) :
    Text.firstVisible? (escape s ++ rest) ≠ some commandMark := by
  induction s with
  | nil => exact hrest
  | cons c s ih =>
    by_cases hc : c = delimiter
    · rw [hc, escape_delimiter, List.cons_append, Text.firstVisible?_of_visible (by decide)]
      exact fun hmark ↦ absurd (Option.some.inj hmark) (by decide)
    · rw [escape_cons hc, List.cons_append]
      rw [Text.firstVisible?_cons] at h ⊢
      split
      case isTrue hblank => exact ih (by rwa [if_pos hblank] at h)
      case isFalse hvisible => rwa [if_neg hvisible] at h

/-- Taking off a comment undoes escaping. -/
theorem strip_escape {s : Text} (h : Text.firstVisible? s ≠ some commandMark) :
    strip (escape s) = (s, false) := by
  have hescaped : Text.firstVisible? (escape s ++ []) ≠ some commandMark :=
    firstVisible?_escape_append h (by decide)
  rw [List.append_nil] at hescaped
  obtain ⟨hfree, hback⟩ := free_escape s
  rw [strip_of_not_command hescaped, content_of_free hfree, hback]

/-- A comment after an escaped text is taken off, unless the text ends in a mark. -/
theorem strip_escape_append_delimiter {s : Text} (h : Text.firstVisible? s ≠ some commandMark)
    (hlast : s.getLast? ≠ some escapeMark) (comment : Text) :
    strip (escape s ++ delimiter :: comment) = (s, true) := by
  have hcommented : Text.firstVisible? (escape s ++ delimiter :: comment) ≠ some commandMark := by
    refine firstVisible?_escape_append h ?_
    rw [Text.firstVisible?_of_visible (by decide)]
    exact fun hmark ↦ absurd (Option.some.inj hmark) (by decide)
  obtain ⟨hfree, hback⟩ := free_escape s
  rw [← getLast?_escape] at hlast
  rw [strip_of_not_command hcommented, content_append_delimiter hfree hlast, hback]

/-- **What taking off a comment does to a line.**  A command line stays as it is.  Any other line
ends at the first delimiter without an escape mark right before it, if there is one, and in what is
left every escaped delimiter becomes a delimiter and all else is kept.

So a text that is escaped is given back as it was, with or without a comment after it; only a mark
at its very end would be taken for that of the comment. -/
theorem strip_at_first_start :
    (∀ line, Text.firstVisible? line = some commandMark → strip line = (line, false)) ∧
    (∀ line, Text.firstVisible? line ≠ some commandMark →
      (∀ i, StartsAt line i → (∀ j < i, ¬StartsAt line j) →
        strip line = (unescape (line.take i), true)) ∧
      ((∀ i, ¬StartsAt line i) → strip line = (unescape line, false))) ∧
    ∀ s, Text.firstVisible? s ≠ some commandMark →
      strip (escape s) = (s, false) ∧
      (s.getLast? ≠ some escapeMark →
        ∀ comment, strip (escape s ++ delimiter :: comment) = (s, true)) := by
  refine ⟨fun line ↦ strip_of_command, fun line h ↦ ?_, fun s h ↦ ?_⟩
  · rw [strip_of_not_command h]
    exact ⟨fun i ↦ content_of_startsAt, content_of_free⟩
  · exact ⟨strip_escape h, strip_escape_append_delimiter h⟩

/-- Of two marks before a delimiter only the second one is that of an escape, and a text that looks
like an escape comes back as it was. -/
theorem strip_at_first_start_twoMarks :
    strip " @a:b" = (" @a:b".toList, false) ∧
      StartsAt "a\\\\:b:c" 5 ∧ (∀ j < 5, ¬StartsAt "a\\\\:b:c" j) ∧
      strip "a\\\\:b:c" = ("a\\:b".toList, true) ∧
      (∀ i, ¬StartsAt "\\:\\" i) ∧ strip "\\:\\" = (":\\".toList, false) ∧
      strip (escape "\\:") = ("\\:".toList, false) ∧
      strip (escape "\\:" ++ delimiter :: "@") = ("\\:".toList, true) := by
  obtain ⟨hcommand, hline, hescaped⟩ := strip_at_first_start
  have hstarts : StartsAt "a\\\\:b:c" 5 := by decide
  have hfirst : ∀ j < 5, ¬StartsAt "a\\\\:b:c" j := by decide
  have hfree : ∀ i, ¬StartsAt "\\:\\" i :=
    free_escaped.mpr ((free_cons fun _ h ↦ by cases h).mpr ⟨by decide, free_nil⟩)
  have hback := hescaped "\\:" (by decide)
  exact ⟨hcommand _ (by decide), hstarts, hfirst, (hline _ (by decide)).1 5 hstarts hfirst,
    hfree, (hline _ (by decide)).2 hfree, hback.1, hback.2 (by decide) _⟩

end Comment
end ChatEmbed

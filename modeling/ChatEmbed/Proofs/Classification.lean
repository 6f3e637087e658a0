import ChatEmbed.Proofs.Comments
import ChatEmbed.Proofs.Lacking

/-!
# Lines written and read

A line is read in four steps: its comment is taken off, escapes are undone, blanks are trimmed, and
what it begins with decides its kind.  Each step can change the first characters that the next one
sees.  Still nothing gets lost after trimming, and a line that is written is read as what it was.

* `Line.write_ofContent` writes the line that was read from a text with visible ends.
* `Line.exists_command_iff` says which lines are commands, by the first visible character of the
  source line: undoing escapes makes none.
* `Line.spell` is the text of a line that can stand in a document.
* `Line.classify_spell` reads it, and `Line.classify_surrounded` does not see blanks around a line.
-/

set_option autoImplicit false

namespace ChatEmbed

/-! ## Trimming -/

namespace Text

theorem trimStart_blank_append {before s : Text} (h : ∀ c ∈ before, isBlank c = true) :
    trimStart (before ++ s) = trimStart s :=
  List.dropWhile_append_of_pos h

theorem trimEnd_append_blank {s after : Text} (h : ∀ c ∈ after, isBlank c = true) :
    trimEnd (s ++ after) = trimEnd s := by
  have hreverse : ∀ c ∈ after.reverse, isBlank c = true := by simpa using h
  rw [trimEnd, List.reverse_append, trimStart_blank_append hreverse, trimEnd]

/-- Blanks around a text are trimmed with its own. -/
theorem trim_surrounded {before s after : Text} (hbefore : ∀ c ∈ before, isBlank c = true)
    (hafter : ∀ c ∈ after, isBlank c = true) : trim (before ++ (s ++ after)) = trim s := by
  rw [trim, trim, trimStart_blank_append hbefore, trimStart, List.dropWhile_append]
  split
  case isTrue hblank =>
    rw [List.dropWhile_eq_nil_iff.mpr hafter, trimStart, List.isEmpty_iff.mp hblank]
  case isFalse => exact trimEnd_append_blank hafter

/-- The first visible character is where trimming stops. -/
theorem head?_trim (s : Text) : (trim s).head? = firstVisible? s := by
  rw [← head?_trimStart]
  obtain ⟨blanks, hblanks⟩ := trimEnd_prefix (trimStart s)
  cases htrim : trimEnd (trimStart s) with
  | nil =>
    have hstart : trimStart s = [] := List.dropWhile_eq_nil_iff.mpr (isBlank_iff_forall.mp htrim)
    rw [trim, htrim, hstart]
  | cons c rest =>
    rw [htrim] at hblanks
    rw [trim, htrim, ← hblanks]
    rfl

theorem trimStart_eq_of_head {s : Text} (h : ∀ c, s.head? = some c → isBlank c = false) :
    trimStart s = s := by
  cases s with
  | nil => rfl
  | cons c rest => exact trimStart_eq_self (h c rfl)

/-- There is nothing to trim from a text with visible ends. -/
theorem Trimmed.trim_eq {s : Text} (h : Trimmed s) : trim s = s := by
  have hreverse : trimStart s.reverse = s.reverse :=
    trimStart_eq_of_head fun c hc ↦ h.last c (by rwa [List.head?_reverse] at hc)
  rw [trim, trimStart_eq_of_head h.first, trimEnd, hreverse, List.reverse_reverse]

theorem trimmed_singleton {c : Char} (h : isBlank c = false) : Trimmed [c] where
  first _ hfirst := Option.some.inj hfirst ▸ h
  last _ hlast := Option.some.inj hlast ▸ h

/-- Whatever stands between texts with visible ends, the whole has visible ends. -/
theorem Trimmed.append {s t : Text} (hs : Trimmed s) (ht : Trimmed t) (hne : s ≠ []) (hne' : t ≠ [])
    (between : Text) : Trimmed (s ++ (between ++ t)) where
  first c h := by
    rw [List.head?_append_of_ne_nil s hne] at h
    exact hs.first c h
  last c h := by
    rw [← List.append_assoc, List.getLast?_append_of_ne_nil (s ++ between) hne'] at h
    exact ht.last c h

theorem firstVisible?_blank_append {before : Text} (h : ∀ c ∈ before, isBlank c = true)
    (s : Text) : firstVisible? (before ++ s) = firstVisible? s := by
  rw [← head?_trimStart, trimStart_blank_append h, head?_trimStart]

theorem firstVisible?_append_blank {after : Text} (h : ∀ c ∈ after, isBlank c = true)
    (s : Text) : firstVisible? (s ++ after) = firstVisible? s := by
  have hnone : after.find? (fun c ↦ !isBlank c) = none := by simpa using h
  rw [firstVisible?, List.find?_append, hnone, Option.or_none, firstVisible?]

@[simp] theorem dropEnd?_append (start stop : Text) : dropEnd? stop (start ++ stop) = some start :=
  dropEnd?_eq_some_iff.mpr rfl

/-- A text does not end with another one that has a different last character. -/
theorem dropEnd?_eq_none {stop s : Text} (hne : stop ≠ []) (h : s.getLast? ≠ stop.getLast?) :
    dropEnd? stop s = none := by
  refine Option.eq_none_iff_forall_ne_some.mpr fun start hstart ↦ h ?_
  rw [dropEnd?_eq_some_iff.mp hstart, List.getLast?_append_of_ne_nil start hne]

end Text

/-! ## Comments and blanks -/

namespace Comment

/-- A blank is neither a delimiter nor an escape mark. -/
theorem ne_of_isBlank {c : Char} (h : isBlank c = true) : c ≠ delimiter ∧ c ≠ escapeMark := by
  constructor <;> rintro rfl <;> exact absurd h (by decide)

theorem content_append_left {before : Text} (h : ∀ c ∈ before, isBlank c = true) (line : Text) :
    content (before ++ line) = (before ++ (content line).1, (content line).2) := by
  induction before with
  | nil => rfl
  | cons c before ih =>
    obtain ⟨hc, hbefore⟩ := List.forall_mem_cons.mp h
    obtain ⟨hdelimiter, hmark⟩ := ne_of_isBlank hc
    rw [List.cons_append, content_cons hdelimiter fun heq ↦ absurd heq hmark, ih hbefore]
    rfl

/-- Blanks at the end of a line are in its comment if it has one. -/
theorem content_append_right {after : Text} (h : ∀ c ∈ after, isBlank c = true) (line : Text) :
    content (line ++ after) =
      ((content line).1 ++ if (content line).2 then [] else after, (content line).2) := by
  induction line using escape_induction with
  | nil => simpa [content] using content_append_left h []
  | escaped line ih =>
    rw [List.cons_append, List.cons_append, content_escaped, content_escaped, ih]
    rfl
  | plain c line plain ih =>
    by_cases hc : c = delimiter
    · rw [hc]
      simp [delimiter, content]
    · have hplain : c = escapeMark → (line ++ after).head? ≠ some delimiter := by
        intro hmark
        cases line with
        | nil => exact fun hhead ↦ (ne_of_isBlank (h delimiter (List.mem_of_head? hhead))).1 rfl
        | cons d line => exact plain hmark
      rw [List.cons_append, content_cons hc hplain, content_cons hc plain, ih]
      rfl

/-- **Undoing escapes does not make a command**: what would begin one was visible before. -/
theorem firstVisible?_content {line : Text}
    (h : Text.firstVisible? (content line).1 = some commandMark) :
    Text.firstVisible? line = some commandMark := by
  induction line using escape_induction with
  | nil => exact h
  | escaped line ih =>
    rw [content_escaped, Text.firstVisible?_of_visible (by decide)] at h
    exact absurd (Option.some.inj h) (by decide)
  | plain c line plain ih =>
    by_cases hc : c = delimiter
    · rw [hc] at h
      cases h
    · rw [content_cons hc plain] at h
      rw [Text.firstVisible?_cons] at h ⊢
      split
      case isTrue hblank => exact ih (by rwa [if_pos hblank] at h)
      case isFalse hvisible => rwa [if_neg hvisible] at h

/-- The content of a line begins as a command does exactly if the line is a command. -/
theorem head?_trim_strip {line : Text} :
    (Text.trim (strip line).1).head? = some commandMark ↔
      Text.firstVisible? line = some commandMark := by
  rw [Text.head?_trim]
  by_cases h : Text.firstVisible? line = some commandMark
  · rw [strip_of_command h]
  · rw [strip_of_not_command h]
    exact iff_of_false (mt firstVisible?_content h) h

end Comment

/-! ## Kinds -/

namespace Line

/-- A line is a command if its content begins with the mark of one. -/
theorem ofContent_command_iff {s : Text} :
    (∃ name argument, ofContent s = .command name argument) ↔
      s.head? = some Comment.commandMark := by
  rw [ofContent.eq_def]
  split
  case h_1 title hdrop =>
    rw [Text.dropStart?_eq_some_iff.mp hdrop]
    simp [Comment.commandMark]
  case h_2 title _ hdrop =>
    rw [Text.dropStart?_eq_some_iff.mp hdrop]
    simp [Comment.commandMark]
  case h_3 rest _ _ => exact iff_of_true ⟨_, _, rfl⟩ rfl
  case h_6 hcommand _ _ _ _ =>
    -- Text is what is left over, so the mark would have made the third case.
    refine iff_of_false (by simp) fun hhead ↦ ?_
    obtain ⟨rest, hrest⟩ := List.head?_eq_some_iff.mp hhead
    exact hcommand rest hrest
  all_goals simp [Comment.commandMark]

/-- The argument of a command is empty only if there is no space before it. -/
theorem write_splitCommand {rest : Text} (h : Text.Trimmed (Comment.commandMark :: rest)) :
    write (.command (splitCommand rest).1 (splitCommand rest).2) =
      Comment.commandMark :: rest := by
  rw [splitCommand]
  cases hcut : Text.cut? ' ' rest with
  | none => rfl
  | some parts =>
    obtain ⟨name, argument⟩ := parts
    obtain ⟨rfl, -⟩ := Text.cut?_eq_some_iff.mp hcut
    cases argument with
    | nil =>
      -- The space would be the last character, and trimming has taken it away.
      have hvisible : Text.Trimmed ((Comment.commandMark :: name) ++ ' ' :: []) := h
      exact absurd rfl (hvisible.visible_of_append (by decide))
    | cons c argument => rfl

/-- **Writing what was read from a text gives the text**, if it has visible ends. -/
theorem write_ofContent {s : Text} (h : Text.Trimmed s) : (ofContent s).write = s := by
  rw [ofContent.eq_def]
  split
  case h_1 title hdrop => exact (Text.dropStart?_eq_some_iff.mp hdrop).symm
  case h_2 title _ hdrop => exact (Text.dropStart?_eq_some_iff.mp hdrop).symm
  case h_3 rest _ _ => exact write_splitCommand h
  all_goals rfl

theorem write_classify (raw : Text) :
    (classify raw).write = Text.trim (Comment.strip raw).1 :=
  write_ofContent (Text.trimmed_trim _)

/-- **The commands are the lines whose first visible character is the mark of one.** -/
theorem exists_command_iff {raw : Text} :
    (∃ name argument, classify raw = .command name argument) ↔
      Text.firstVisible? raw = some Comment.commandMark := by
  rw [classify, ofContent_command_iff, Comment.head?_trim_strip]

/-- The text of a line as it can stand in a document.  Outside of commands, delimiters have to be
escaped. -/
def spell : Line → Text
  | .command name argument => write (.command name argument)
  | line => Comment.escape line.write

/-- Taking off a comment gives back what a line was written as. -/
theorem strip_spell {line : Line} (trimmed : Text.Trimmed line.write)
    (read : ofContent line.write = line) :
    Comment.strip line.spell = (line.write, false) := by
  have hvisible : Text.firstVisible? line.write = line.write.head? := by
    rw [← Text.head?_trim, trimmed.trim_eq]
  have hcommand : (∃ name argument, line = .command name argument) ↔
      Text.firstVisible? line.write = some Comment.commandMark := by
    rw [hvisible, ← ofContent_command_iff, read]
  cases line with
  | command name argument => exact Comment.strip_of_command (hcommand.mp ⟨name, argument, rfl⟩)
  | _ => exact Comment.strip_escape (mt hcommand.mpr (by simp))

/-- **A line is read from its text as what it was**, and no comment is found in it. -/
theorem classify_spell (raw : Text) :
    classify (classify raw).spell = classify raw ∧
      (Comment.strip (classify raw).spell).2 = false := by
  have htrimmed : Text.Trimmed (classify raw).write := by
    rw [write_classify]
    exact Text.trimmed_trim _
  have hread : ofContent (classify raw).write = classify raw := by
    rw [write_classify, classify]
  have hstrip := strip_spell htrimmed hread
  constructor
  · rw [classify, hstrip, htrimmed.trim_eq, hread]
  · rw [hstrip]

/-- **Blanks around a line do not matter.** -/
theorem classify_surrounded {before after : Text} (hbefore : ∀ c ∈ before, isBlank c = true)
    (hafter : ∀ c ∈ after, isBlank c = true) (raw : Text) :
    classify (before ++ (raw ++ after)) = classify raw ∧
      (Comment.strip (before ++ (raw ++ after))).2 = (Comment.strip raw).2 := by
  have hvisible : Text.firstVisible? (before ++ (raw ++ after)) = Text.firstVisible? raw := by
    rw [Text.firstVisible?_blank_append hbefore, Text.firstVisible?_append_blank hafter]
  rw [classify, classify]
  by_cases hcommand : Text.firstVisible? raw = some Comment.commandMark
  · rw [Comment.strip_of_command hcommand, Comment.strip_of_command (hvisible.trans hcommand),
      Text.trim_surrounded hbefore hafter]
    exact ⟨rfl, rfl⟩
  · -- What is left of the blanks at the end depends on whether a comment takes them away.
    have hblank : ∀ c ∈ if (Comment.content raw).2 then [] else after, isBlank c = true := by
      split
      · exact List.forall_mem_nil _
      · exact hafter
    rw [Comment.strip_of_not_command hcommand, Comment.strip_of_not_command (hvisible ▸ hcommand),
      Comment.content_append_left hbefore, Comment.content_append_right hafter,
      Text.trim_surrounded hbefore hblank]
    exact ⟨rfl, rfl⟩

/-- **Reading a line loses nothing but comments, escapes and blanks around it.**

A line is a command exactly if the first character to be seen in the source line is the mark of
commands, and then there is no comment to lose.  What was read can be written again: as the content
of the source line, trimmed, and as a text with its delimiters escaped that is read as the same line
without a comment.  And blanks around a source line do not matter. -/
theorem classify_lossless (raw : Text) :
    ((∃ name argument, classify raw = .command name argument) ↔
        Text.firstVisible? raw = some Comment.commandMark) ∧
      ((∃ name argument, classify raw = .command name argument) →
        Comment.strip raw = (raw, false)) ∧
      (classify raw).write = Text.trim (Comment.strip raw).1 ∧
      (classify (classify raw).spell = classify raw ∧
        (Comment.strip (classify raw).spell).2 = false) ∧
      ∀ before after : Text, (∀ c ∈ before, isBlank c = true) → (∀ c ∈ after, isBlank c = true) →
        classify (before ++ (raw ++ after)) = classify raw ∧
          (Comment.strip (before ++ (raw ++ after))).2 = (Comment.strip raw).2 :=
  ⟨exists_command_iff, fun h ↦ Comment.strip_of_command (exists_command_iff.mp h),
    write_classify raw, classify_spell raw,
    fun _ _ hbefore hafter ↦ classify_surrounded hbefore hafter raw⟩

/-- An escaped delimiter before a mark of commands, and a heading with a comment between blanks. -/
theorem classify_lossless_disguised :
    (¬∃ name argument, classify "\\:@url: x" = .command name argument) ∧
      classify (classify "\\:@url: x").spell = .text ":@url" ∧
      (∀ c ∈ ['\u2003'], isBlank c = true) ∧ (∀ c ∈ ['\t'], isBlank c = true) ∧
      classify (['\u2003'] ++ ("# a\\:b :c\\" ++ ['\t'])) = .heading "a:b" ∧
      (classify "# a\\:b :c\\").write = "# a:b".toList ∧
      (classify "# a\\:b :c\\").spell = "# a\\:b".toList ∧
      classify "# a\\:b" = .heading "a:b" ∧ (Comment.strip "# a\\:b").2 = false := by
  have hspace : ∀ c ∈ ['\u2003'], isBlank c = true := List.forall_mem_singleton.mpr (by decide)
  have htab : ∀ c ∈ ['\t'], isBlank c = true := List.forall_mem_singleton.mpr (by decide)
  obtain ⟨hcommand, -, -, ⟨hescaped, -⟩, -⟩ := classify_lossless "\\:@url: x"
  obtain ⟨-, -, hwrite, ⟨hread, hflag⟩, hsurrounded⟩ := classify_lossless "# a\\:b :c\\"
  exact ⟨mt hcommand.mp (by decide), hescaped, hspace, htab, (hsurrounded _ _ hspace htab).1,
    hwrite, by decide, hread, hflag⟩

end Line
end ChatEmbed

import ChatEmbed.Proofs.Locality
import ChatEmbed.Proofs.Terminators

/-!
# Where an error is in its text

The place of an error is worked out from lines without their ends, and every end counts as one byte.
The text itself may have spent two bytes on it.  So a place in a text is exact only as long as the
lines before it end with a line feed alone; each carriage return at the end of one of these lines
moves the place by a byte.

* `Text.terminator` is what a line ends with, and `Text.returnsBefore` counts the carriage returns
  at the ends of the lines before a line.
* `byteSize_flatten` measures lines as they stand in a text against what `sourceSize` counts.
* `parseText_error_slice` is where the bytes of the line at fault are, and
  `slice_after_return` shows that they need not be at the place of the error.
-/

set_option autoImplicit false

namespace ChatEmbed

namespace Text

/-! ## The end of a line -/

/-- The terminators at the end of a line. -/
def terminator (line : Text) : Text := line.drop (chomp line).length

theorem terminator_eq {line ending : Text} (h : line = chomp line ++ ending) :
    terminator line = ending := by
  have hdrop := congrArg (List.drop (chomp line).length) h
  rwa [List.drop_left] at hdrop

theorem chomp_append_terminator (line : Text) : chomp line ++ terminator line = line := by
  obtain ⟨ending, -, hline⟩ := exists_eq_chomp_append line
  rw [terminator_eq hline, ← hline]

/-- The line ends with a line feed, and has no other. -/
def Ended (line : Text) : Prop := ∃ start, '\n' ∉ start ∧ line = start ++ ['\n']

/-- A line with a line feed ends with carriage returns, and then the line feed. -/
theorem Ended.exists_terminator_eq {line : Text} (h : Ended line) :
    ∃ count, terminator line = List.replicate count '\r' ++ ['\n'] := by
  obtain ⟨start, hstart, rfl⟩ := h
  obtain ⟨ending, hending, hline⟩ := exists_eq_chomp_append start
  have hreturns : ending = List.replicate ending.length '\r' := by
    refine List.eq_replicate_iff.mpr ⟨rfl, fun c hc => ?_⟩
    have hc' : c ∈ start := hline ▸ List.mem_append_right _ hc
    have hfeed : c ≠ '\n' := fun h => hstart (h ▸ hc')
    exact (isTerminator_iff.mp (hending c hc)).resolve_left hfeed
  have hchomp : chomp (start ++ ['\n']) = chomp start := chomp_append (by simp [isTerminator]) start
  refine ⟨ending.length, terminator_eq ?_⟩
  rw [hchomp, ← hreturns, ← List.append_assoc, ← hline]

theorem byteSize_replicate_return (count : Nat) : byteSize (List.replicate count '\r') = count := by
  induction count with
  | zero => rfl
  | succ count ih =>
    rw [List.replicate_succ, byteSize_cons, ih, Nat.add_comm]
    rfl

/-- A line that ends with a line feed takes up what the parser counts, and its carriage returns. -/
theorem Ended.byteSize_eq {line : Text} (h : Ended line) :
    byteSize line = byteSize (chomp line) + 1 + (terminator line).count '\r' := by
  obtain ⟨count, hending⟩ := h.exists_terminator_eq
  conv => lhs; rw [← chomp_append_terminator line]
  rw [hending, byteSize_append, byteSize_append, byteSize_replicate_return]
  simp [Char.utf8Size]
  omega

/-- All lines of a text but the last one end with a line feed. -/
theorem ended_of_mem_before {s : Text} {before after : List Text} {line : Text}
    (h : wholeLines s = before ++ line :: after) : ∀ l ∈ before, Ended l := by
  induction s using line_induction generalizing before with
  | last only hfeed =>
    rw [wholeLines_of_not_mem hfeed] at h
    split at h
    · simp at h
    · obtain ⟨rfl, -⟩ := List.append_eq_singleton_iff.mp h.symm |>.resolve_right (by simp)
      exact List.forall_mem_nil _
  | more first rest hfeed ih =>
    rw [wholeLines_append_cons hfeed] at h
    cases before with
    | nil => exact List.forall_mem_nil _
    | cons l before =>
      obtain ⟨rfl, hrest⟩ := List.cons.inj h
      exact List.forall_mem_cons.mpr ⟨⟨first, hfeed, rfl⟩, ih hrest⟩

/-- **Lines that end with a line feed take up what the parser counts, and their carriage
returns.** -/
theorem byteSize_flatten {lines : List Text} (h : ∀ l ∈ lines, Ended l) :
    byteSize lines.flatten = sourceSize lines + (lines.flatMap terminator).count '\r' := by
  induction lines with
  | nil => rfl
  | cons line rest ih =>
    obtain ⟨hline, hrest⟩ := List.forall_mem_cons.mp h
    rw [List.flatten_cons, byteSize_append, hline.byteSize_eq, ih hrest, sourceSize,
      List.flatMap_cons, List.count_append]
    omega

/-- The carriage returns at the ends of the lines before the one with this number. -/
def returnsBefore (s : Text) (number : Nat) : Nat :=
  (((wholeLines s).take (number - 1)).flatMap terminator).count '\r'

/-! ## Texts without carriage returns -/

theorem returnsBefore_eq_zero {s : Text} (h : '\r' ∉ s) (number : Nat) :
    returnsBefore s number = 0 := by
  refine List.count_eq_zero.mpr fun hmem => h ?_
  obtain ⟨line, hline, hreturn⟩ := List.mem_flatMap.mp hmem
  rw [← flatten_wholeLines s]
  exact List.mem_flatten.mpr ⟨line, List.mem_of_mem_take hline, List.mem_of_mem_drop hreturn⟩

theorem chomp_of_not_mem {line : Text} (hfeed : '\n' ∉ line) (hreturn : '\r' ∉ line) :
    chomp line = line := by
  obtain ⟨ending, hending, hline⟩ := exists_eq_chomp_append line
  cases ending with
  | nil => rw [List.append_nil] at hline; exact hline.symm
  | cons c rest =>
    have hc : c ∈ line := hline ▸ List.mem_append_right _ List.mem_cons_self
    rcases isTerminator_iff.mp (hending c List.mem_cons_self) with rfl | rfl
    · exact absurd hc hfeed
    · exact absurd hc hreturn

/-- Nothing is left to take off a line if there are no carriage returns. -/
theorem chomp_of_mem_lines {s line : Text} (h : '\r' ∉ s) (hline : line ∈ lines s) :
    chomp line = line := by
  induction s using line_induction with
  | last only hfeed =>
    rw [lines_of_not_mem hfeed] at hline
    split at hline
    · cases hline
    · rw [List.mem_singleton.mp hline]
      exact chomp_of_not_mem hfeed h
  | more first rest hfeed ih =>
    simp only [List.mem_append, List.mem_cons, not_or] at h
    rw [lines_append_cons hfeed] at hline
    rcases List.mem_cons.mp hline with rfl | hrest
    · obtain ⟨ending, -, hfirst⟩ := exists_eq_dropReturn_append first
      refine chomp_of_not_mem (fun hmem => hfeed ?_) fun hmem => h.1 ?_
      · exact hfirst ▸ List.mem_append_left _ hmem
      · exact hfirst ▸ List.mem_append_left _ hmem
    · exact ih h.2.2 hrest

end Text

/-! ## The line at fault -/

/-- The span, so many bytes further on. -/
def Span.moved (span : Span) (count : Nat) : Span := ⟨span.start + count, span.stop + count⟩

theorem Span.moved_zero (span : Span) : span.moved 0 = span := rfl

theorem ParseError.eq_line_of_placed {error : ParseError} {number : Nat} {span : Span}
    (told : error.lineNumber? = some number) (placed : error.span? = some span) :
    ∃ fault, error = .line number span fault := by
  cases error with
  | line other otherSpan fault =>
    cases told
    cases placed
    exact ⟨fault, rfl⟩
  | _ => cases told

section

variable {setting : Setting} {kind : DocumentKind} {dir : Path} {text : Text} {error : ParseError}
variable {number : Nat} {span : Span}

/-- **The line at fault** is one of the lines of the text, and has the place that it is given among
the lines without their ends. -/
theorem exists_wholeLines_of_error
    (failed : (setting.parseText kind dir text).result = .error error)
    (told : error.lineNumber? = some number) (placed : error.span? = some span) :
    ∃ before line after, Text.wholeLines text = before ++ line :: after ∧
      number = before.length + 1 ∧ span = lineSpan before line := by
  have hwhole : setting.parseText kind dir text =
      setting.parseBelow [] kind dir (Text.wholeLines text) :=
    documentOfLines_congr_chomp (Text.map_chomp_wholeLines text).symm
  obtain ⟨fault, rfl⟩ := ParseError.eq_line_of_placed told placed
  rw [hwhole, parseBelow_eq_error_iff] at failed
  obtain ⟨before, line, after, own, hlines, -, -, hown⟩ := failed
  cases own with
  | line _ _ fault =>
    cases hown
    exact ⟨before, line, after, hlines, rfl, rfl⟩
  | _ => cases hown

end

/-- A line of a text, as it stands there and as it is without its end. -/
theorem Text.exists_lines_of_wholeLines {s line : Text} {before after : List Text}
    (h : wholeLines s = before ++ line :: after) :
    ∃ content, (lines s)[before.length]? = some content ∧ chomp content = chomp line := by
  have hget : ((lines s).map chomp)[before.length]? = some (chomp line) := by
    rw [← map_chomp_wholeLines, h]
    simp
  rw [List.getElem?_map, Option.map_eq_some_iff] at hget
  exact hget

/-- A text around one of its lines. -/
theorem Text.eq_append_chomp_append {s line : Text} {before after : List Text}
    (h : wholeLines s = before ++ line :: after) :
    s = before.flatten ++ chomp line ++ (terminator line ++ after.flatten) := by
  rw [← flatten_wholeLines s, h, List.flatten_append, List.flatten_cons, List.append_assoc,
    ← List.append_assoc (chomp line), chomp_append_terminator]

/-- A line of a text has its bytes where the lines before it end. -/
theorem Span.slice_moved_lineSpan {text line : Text} {before after : List Text}
    (h : Text.wholeLines text = before ++ line :: after) :
    ((lineSpan before line).moved (Text.returnsBefore text (before.length + 1))).slice text =
      Text.utf8 (Text.chomp line) := by
  have hreturns : Text.returnsBefore text (before.length + 1) =
      (before.flatMap Text.terminator).count '\r' := by
    rw [Text.returnsBefore, h, Nat.add_sub_cancel, List.take_left]
  have hspan : (lineSpan before line).moved (Text.returnsBefore text (before.length + 1)) =
      ⟨Text.byteSize before.flatten,
        Text.byteSize before.flatten + Text.byteSize (Text.chomp line)⟩ := by
    rw [Text.byteSize_flatten (Text.ended_of_mem_before h), hreturns, lineSpan, Span.moved,
      Nat.add_right_comm]
  rw [hspan]
  conv => lhs; rw [Text.eq_append_chomp_append h]
  exact Span.slice_append _ _ _

/-- **Where the line at fault is in the text.**  Let a text be parsed, and let it fail with an error
that has a place.  Then the error has the number of a line of the text, and the bytes of this line,
without its end, stand at the place of the error moved by the carriage returns at the ends of the
lines before.  So if the text has no carriage returns, then they stand at the place itself. -/
theorem parseText_error_slice {setting : Setting} {kind : DocumentKind} {dir : Path} {text : Text}
    {error : ParseError} {number : Nat} {span : Span}
    (failed : (setting.parseText kind dir text).result = .error error)
    (told : error.lineNumber? = some number) (placed : error.span? = some span) :
    0 < number ∧ ∃ line, (Text.lines text)[number - 1]? = some line ∧
      (span.moved (Text.returnsBefore text number)).slice text = Text.utf8 (Text.chomp line) ∧
      ('\r' ∉ text → span.slice text = Text.utf8 line) := by
  obtain ⟨before, whole, after, hlines, rfl, rfl⟩ :=
    exists_wholeLines_of_error failed told placed
  obtain ⟨line, hline, hchomp⟩ := Text.exists_lines_of_wholeLines hlines
  have hslice := Span.slice_moved_lineSpan hlines
  refine ⟨Nat.succ_pos _, line, hline, ?_, fun hplain => ?_⟩
  · rw [hslice, hchomp]
  · rw [Text.returnsBefore_eq_zero hplain, Span.moved_zero] at hslice
    rw [hslice, ← hchomp, Text.chomp_of_mem_lines hplain (List.mem_of_getElem? hline)]

/-- No templates at all. -/
def unaided : Setting where
  source := MemoryFiles.source {}

/-- The two carriage returns before the third line have to be added to its place.  Without them the
place is exact, although a character of two bytes stands before it. -/
theorem parseText_error_slice_mixed :
    (unaided.parseText .blueprint "." "é\r\n\r\n@replace a b").result
      = .error (.line 3 ⟨4, 16⟩ (.invalidReplacement "a b")) ∧
    Text.returnsBefore "é\r\n\r\n@replace a b" 3 = 2 ∧
    Span.slice ⟨6, 18⟩ "é\r\n\r\n@replace a b" = Text.utf8 "@replace a b" ∧
    (unaided.parseText .blueprint "." "é\n\n@replace a b").result
      = .error (.line 3 ⟨4, 16⟩ (.invalidReplacement "a b")) ∧
    Span.slice ⟨4, 16⟩ "é\n\n@replace a b" = Text.utf8 "@replace a b" := by
  have hfailed : (unaided.parseText .blueprint "." "é\r\n\r\n@replace a b").result
      = .error (.line 3 ⟨4, 16⟩ (.invalidReplacement "a b")) := by
    decide +kernel
  have hplain : (unaided.parseText .blueprint "." "é\n\n@replace a b").result
      = .error (.line 3 ⟨4, 16⟩ (.invalidReplacement "a b")) := by
    decide +kernel
  have hreturns : Text.returnsBefore "é\r\n\r\n@replace a b" 3 = 2 := by decide +kernel
  refine ⟨hfailed, hreturns, ?_, hplain, ?_⟩
  · obtain ⟨-, line, hline, hslice, -⟩ := parseText_error_slice hfailed rfl rfl
    obtain rfl : "@replace a b".toList = line := Option.some.inj hline
    rw [hreturns] at hslice
    exact hslice
  · obtain ⟨-, line, hline, -, hslice⟩ := parseText_error_slice hplain rfl rfl
    obtain rfl : "@replace a b".toList = line := Option.some.inj hline
    exact hslice (by decide)

/-- **A place need not be where the line is.**  The line before the one at fault ends with a
carriage return, so the bytes at the place of the error begin with the line feed and lack the last
character. -/
theorem slice_after_return :
    (unaided.parseText .embed "." "# T\r\n@colour red").result
      = .error (.line 2 ⟨4, 15⟩ (.unknownCommand "colour")) ∧
    (Text.lines "# T\r\n@colour red")[1]? = some "@colour red".toList ∧
    Span.slice ⟨4, 15⟩ "# T\r\n@colour red" = Text.utf8 "\n@colour re" ∧
    Span.slice ⟨4, 15⟩ "# T\r\n@colour red" ≠ Text.utf8 "@colour red" := by
  decide +kernel

end ChatEmbed

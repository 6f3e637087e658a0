import ChatEmbed.Proofs.Positions
import ChatEmbed.Report.Basic
import Mathlib.Data.Bool.AllAny

/-!
# What a report points at

A report draws the lines that the place of an error lies in.  It takes the place for a range of
characters, but the place counts bytes.  For a text whose lines end with line feeds this file says
what comes of it: the report points at the line at fault exactly if all characters up to the end of
this line take up one byte.

* `ShownLine.cutLines_eq_wholeLines` compares the lines of a report with those of the parser, and
  `ShownLine.find?_of_wholeLines` finds the line of a position.
* `Place.IsLine` is what a place should be, and `Place.exists_isLine_iff` says when it is.
* `report_points_at_line` says it of the report of an error, and `report_beside_line` is a report
  that points elsewhere.
-/

set_option autoImplicit false

namespace ChatEmbed

/-! ## Lines as they are shown -/

namespace ShownLine

/-- A text whose lines end with line feeds is cut into the same lines for a report as for the
parser. -/
theorem cutLines_eq_wholeLines {s : Text} (plain : ∀ c ∈ s, isBreak c = true → c = '\n') :
    cutLines s = Text.wholeLines s := by
  fun_induction cutLines s with
  | case1 => rfl
  | case2 rest ih => exact absurd (plain '\r' (by simp) (by decide)) (by decide)
  | case3 c rest _ hbreak ih =>
    obtain rfl : c = '\n' := plain c List.mem_cons_self hbreak
    rw [Text.wholeLines, if_pos rfl, ih fun c hc => plain c (List.mem_cons_of_mem _ hc)]
  | case4 c rest _ hbreak hrest ih =>
    have hc : c ≠ '\n' := by rintro rfl; exact hbreak (by decide)
    rw [Text.wholeLines, if_neg hc, ← ih fun c hc => plain c (List.mem_cons_of_mem _ hc), hrest]
  | case5 c rest _ hbreak line lines hrest ih =>
    have hc : c ≠ '\n' := by rintro rfl; exact hbreak (by decide)
    rw [Text.wholeLines, if_neg hc, ← ih fun c hc => plain c (List.mem_cons_of_mem _ hc), hrest]

theorem return_not_mem {s : Text} (plain : ∀ c ∈ s, isBreak c = true → c = '\n') : '\r' ∉ s := by
  intro hmem
  exact absurd (plain '\r' hmem (by decide)) (by decide)

theorem enumerate_append (n start : Nat) (first second : List Text) :
    ShownLine.enumerate n start (first ++ second) = ShownLine.enumerate n start first ++
      ShownLine.enumerate (n + first.length) (start + first.flatten.length) second := by
  induction first generalizing n start with
  | nil => simp [ShownLine.enumerate]
  | cons text rest ih =>
    rw [List.cons_append, ShownLine.enumerate, ih, ShownLine.enumerate, List.cons_append,
      List.length_cons, List.flatten_cons, List.length_append]
    congr 3 <;> omega

/-- **The lines that are shown**, each with the number and the position that the lines before it
determine. -/
theorem mem_enumerate_iff {n start : Nat} {texts : List Text} {line : ShownLine} :
    line ∈ ShownLine.enumerate n start texts ↔ ∃ before text after,
      texts = before ++ text :: after ∧
        line = ⟨n + before.length, start + before.flatten.length, text⟩ := by
  constructor
  · intro h
    induction texts generalizing n start with
    | nil => cases h
    | cons first rest ih =>
      rcases List.mem_cons.mp h with rfl | hrest
      · exact ⟨[], first, rest, rfl, rfl⟩
      · obtain ⟨before, text, after, rfl, rfl⟩ := ih hrest
        refine ⟨first :: before, text, after, rfl, ?_⟩
        simp only [List.length_cons, List.flatten_cons, List.length_append, mk.injEq, and_true]
        omega
  · rintro ⟨before, text, after, rfl, rfl⟩
    rw [enumerate_append, ShownLine.enumerate]
    exact List.mem_append_right _ List.mem_cons_self

theorem start_le_of_mem_enumerate {n start : Nat} {texts : List Text} {line : ShownLine}
    (h : line ∈ ShownLine.enumerate n start texts) :
    start ≤ line.start ∧ line.start ≤ start + texts.flatten.length := by
  obtain ⟨before, text, after, rfl, rfl⟩ := mem_enumerate_iff.mp h
  simp

theorem mem_of_find? {shown : Text} {position : Nat} {line : ShownLine}
    (h : find? shown position = some line) : line ∈ ofText shown := by
  rw [find?] at h
  split at h
  · cases h
  · exact List.mem_of_mem_filter (List.mem_of_getLast? h)

section

variable {s line : Text} {before after : List Text}
variable (plain : ∀ c ∈ s, isBreak c = true → c = '\n')
variable (h : Text.wholeLines s = before ++ line :: after)
include plain h

/-- Only this line is shown with its number. -/
theorem eq_of_number {shown : ShownLine} (hshown : shown ∈ ofText s)
    (hnumber : shown.number = before.length + 1) :
    shown = ⟨before.length + 1, before.flatten.length, line⟩ := by
  rw [ofText, cutLines_eq_wholeLines plain] at hshown
  obtain ⟨others, text, rest, hlines, rfl⟩ := mem_enumerate_iff.mp hshown
  have hlength : others.length = before.length := by simp only at hnumber; omega
  obtain ⟨rfl, hcons⟩ := List.append_inj (hlines.symm.trans h) hlength
  obtain ⟨rfl, -⟩ := List.cons.inj hcons
  rw [Nat.add_comm 1, Nat.zero_add]

/-- **The line of a position** is the one that begins there or before, and ends behind it. -/
theorem find?_of_wholeLines {position : Nat} (low : before.flatten.length ≤ position)
    (high : position < before.flatten.length + line.length) :
    find? s position = some ⟨before.length + 1, before.flatten.length, line⟩ := by
  have hlength : before.flatten.length + line.length ≤ s.length := by
    rw [← Text.flatten_wholeLines s, h]
    simp
  have hafter : (ShownLine.enumerate (1 + before.length + 1)
      (0 + before.flatten.length + line.length) after).filter
        (fun shown => shown.start ≤ position) = [] := by
    refine List.filter_eq_nil_iff.mpr fun shown hshown => ?_
    have := (start_le_of_mem_enumerate hshown).1
    simp only [decide_eq_true_eq]
    omega
  rw [find?, if_neg (by omega), ofText, cutLines_eq_wholeLines plain, h, enumerate_append,
    ShownLine.enumerate, List.filter_append, List.filter_cons_of_pos (by simpa using low), hafter,
    List.getLast?_concat, Nat.add_comm 1, Nat.zero_add]

end

end ShownLine

/-! ## Places -/

namespace Text

theorem length_le_byteSize (s : Text) : s.length ≤ byteSize s := by
  induction s with
  | nil => exact Nat.le_refl _
  | cons c r ih =>
    have := c.utf8Size_pos
    rw [List.length_cons, byteSize_cons]
    omega

/-- A text has as many bytes as characters if each character takes up one byte. -/
theorem byteSize_eq_length_iff {s : Text} :
    byteSize s = s.length ↔ ∀ c ∈ s, c.utf8Size = 1 := by
  induction s with
  | nil => simp
  | cons c r ih =>
    have := c.utf8Size_pos
    have := length_le_byteSize r
    rw [List.forall_mem_cons, ← ih, byteSize_cons, List.length_cons]
    omega

theorem ne_nil_of_mem_wholeLines {s line : Text} (h : line ∈ wholeLines s) : line ≠ [] := by
  induction s using line_induction with
  | last only hfeed =>
    rw [wholeLines_of_not_mem hfeed] at h
    split at h
    · cases h
    · rwa [List.mem_singleton.mp h]
  | more first rest hfeed ih =>
    rw [wholeLines_append_cons hfeed] at h
    rcases List.mem_cons.mp h with rfl | hrest
    · simp
    · exact ih hrest

theorem length_trimEnd_le (s : Text) : (trimEnd s).length ≤ s.length := by
  rw [trimEnd, trimStart, List.length_reverse]
  exact Nat.le_trans (List.length_dropWhile_le _ _) (Nat.le_of_eq List.length_reverse)

/-- The end of a line is not visible. -/
theorem trimEnd_chomp (line : Text) : trimEnd (chomp line) = trimEnd line := by
  obtain ⟨ending, hending, hline⟩ := exists_eq_chomp_append line
  have hblank : ∀ c ∈ ending.reverse, isBlank c = true := by
    intro c hc
    rcases isTerminator_iff.mp (hending c (List.mem_reverse.mp hc)) with rfl | rfl <;> decide
  conv => rhs; rw [hline, trimEnd, trimStart, List.reverse_append,
    List.dropWhile_append_of_pos hblank]
  rfl

/-- The position of the first character of the line with this number. -/
def lineStart (s : Text) (number : Nat) : Nat :=
  ((wholeLines s).take (number - 1)).flatten.length

end Text

namespace Place

/-- The place is a line: it begins in the first column of the line with the number, it does not go
beyond this line, and it covers so many characters from the given position on, and no others. -/
structure IsLine (place : Place) (number start length : Nat) : Prop where
  first : place.first.number = number
  column : place.column = 1
  last : place.last.number = number
  covers : ∀ position, place.covers position = true ↔ start ≤ position ∧ position < start + length

theorem find?_eq_some_iff {shown : Text} {span : Span} {place : Place} :
    find? shown span = some place ↔
      place.start = min span.start (Text.byteSize shown) ∧
      place.stop = min span.stop (Text.byteSize shown) ∧
      ShownLine.find? shown place.start = some place.first ∧
      (if place.start < place.stop then ShownLine.find? shown (place.stop - 1)
        else some place.first) = some place.last := by
  obtain ⟨start, stop, first, last⟩ := place
  by_cases hlt : min span.start (Text.byteSize shown) < min span.stop (Text.byteSize shown)
  all_goals
    simp only [find?, bind, Option.bind_eq_some_iff, pure, Option.some.injEq, mk.injEq, hlt,
      if_true, if_false]
    constructor
    · rintro ⟨_, hfirst, _, hlast, rfl, rfl, rfl, rfl⟩
      simp [hfirst, hlast, hlt]
    · rintro ⟨rfl, rfl, hfirst, hlast⟩
      exact ⟨first, hfirst, last, by simpa [hlt] using hlast, rfl, rfl, rfl, rfl⟩

section

variable {s line : Text} {before after : List Text}
variable (plain : ∀ c ∈ s, ShownLine.isBreak c = true → c = '\n')
variable (h : Text.wholeLines s = before ++ line :: after)
include plain h

/-- Without carriage returns the parser counts the bytes that stand in the text. -/
theorem lineSpan_eq : lineSpan before line =
    ⟨Text.byteSize before.flatten,
      Text.byteSize before.flatten + Text.byteSize (Text.chomp line)⟩ := by
  have hnone :=
    Text.returnsBefore_eq_zero (ShownLine.return_not_mem plain) (before.length + 1)
  rw [Text.returnsBefore, h, Nat.add_sub_cancel, List.take_left] at hnone
  rw [Text.byteSize_flatten (Text.ended_of_mem_before h), hnone, lineSpan, Nat.add_zero]

theorem stop_lineSpan_le : (lineSpan before line).stop ≤ Text.byteSize s := by
  rw [lineSpan_eq plain h]
  conv => rhs; rw [Text.eq_append_chomp_append h, Text.byteSize_append, Text.byteSize_append]
  exact Nat.le_add_right _ _

/-- **If a place is its line**, then bytes and characters are as many up to the end of the line. -/
theorem IsLine.sizes_eq {place : Place} (hplace : find? s (lineSpan before line) = some place)
    (isLine : place.IsLine (before.length + 1) before.flatten.length (Text.chomp line).length) :
    Text.byteSize before.flatten = before.flatten.length ∧
      Text.byteSize (Text.chomp line) = (Text.chomp line).length := by
  obtain ⟨hstart, hstop, hfirst, -⟩ := find?_eq_some_iff.mp hplace
  have hsize := stop_lineSpan_le plain h
  rw [lineSpan_eq plain h] at hstart hstop hsize
  dsimp only at hstart hstop hsize
  have hbefore := Text.length_le_byteSize before.flatten
  have hline := Text.length_le_byteSize (Text.chomp line)
  -- only the place where the line starts has both its number and its first column
  have hcolumn := isLine.column
  rw [Place.column, ShownLine.eq_of_number plain h (ShownLine.mem_of_find? hfirst) isLine.first]
    at hcolumn
  dsimp only at hcolumn
  have hcovers := isLine.covers (before.flatten.length + (Text.chomp line).length)
  simp only [Place.covers, Bool.and_eq_true, decide_eq_true_eq] at hcovers
  omega

/-- **A place is its line** if bytes and characters are as many up to the end of the line. -/
theorem exists_isLine (hbefore : Text.byteSize before.flatten = before.flatten.length)
    (hline : Text.byteSize (Text.chomp line) = (Text.chomp line).length) :
    ∃ place, find? s (lineSpan before line) = some place ∧
      place.IsLine (before.length + 1) before.flatten.length (Text.chomp line).length := by
  have hsize := stop_lineSpan_le plain h
  rw [lineSpan_eq plain h, hbefore, hline] at hsize ⊢
  have hterminator : (Text.chomp line).length + (Text.terminator line).length = line.length := by
    rw [← List.length_append, Text.chomp_append_terminator]
  have hmem : line ∈ Text.wholeLines s := h ▸ List.mem_append_right _ List.mem_cons_self
  have hpos := List.length_pos_iff.mpr (Text.ne_nil_of_mem_wholeLines hmem)
  refine ⟨⟨before.flatten.length, before.flatten.length + (Text.chomp line).length,
    ⟨before.length + 1, before.flatten.length, line⟩,
    ⟨before.length + 1, before.flatten.length, line⟩⟩, ?_, rfl, ?_, rfl, ?_⟩
  · rw [find?_eq_some_iff]
    refine ⟨?_, (Nat.min_eq_left hsize).symm, ?_, ?_⟩ <;> dsimp only at hsize ⊢
    · omega
    · exact ShownLine.find?_of_wholeLines plain h (Nat.le_refl _) (by omega)
    · split
      · exact ShownLine.find?_of_wholeLines plain h (by omega) (by omega)
      · rfl
  · simp [column]
  · simp [covers]

/-- **When a place is its line.**  The place of a line counts bytes, and is read as if it counted
characters.  This does no harm exactly if all characters up to the end of the line take up one
byte. -/
theorem exists_isLine_iff :
    (∃ place, find? s (lineSpan before line) = some place ∧
      place.IsLine (before.length + 1) before.flatten.length (Text.chomp line).length) ↔
    ∀ c ∈ s.take (before.flatten.length + (Text.chomp line).length), c.utf8Size = 1 := by
  have htake : s.take (before.flatten.length + (Text.chomp line).length) =
      before.flatten ++ Text.chomp line := by
    conv => lhs; rw [Text.eq_append_chomp_append h, ← List.length_append, List.take_left]
  rw [htake, List.forall_mem_append, ← Text.byteSize_eq_length_iff, ← Text.byteSize_eq_length_iff]
  constructor
  · rintro ⟨place, hplace, isLine⟩
    exact isLine.sizes_eq plain h hplace
  · rintro ⟨hbefore, hline⟩
    exact exists_isLine plain h hbefore hline

/-- If a place is its line, all that is shown of this line has the color of the fault. -/
theorem IsLine.ink_eq {place : Place} {span : Span} (hplace : find? s span = some place)
    (isLine : place.IsLine (before.length + 1) before.flatten.length (Text.chomp line).length) :
    ∀ piece ∈ place.shown place.first, piece.ink = .fault := by
  obtain ⟨-, -, hfirst, -⟩ := find?_eq_some_iff.mp hplace
  rw [ShownLine.eq_of_number plain h (ShownLine.mem_of_find? hfirst) isLine.first]
  intro piece hpiece
  obtain ⟨row, hrow, hmem⟩ := List.mem_flatten.mp hpiece
  obtain ⟨column, hcolumn, rfl⟩ := List.mem_mapIdx.mp hrow
  have hvisible : column < (Text.chomp line).length := by
    have hcolumn : column < (Text.trimEnd line).length := hcolumn
    rw [← Text.trimEnd_chomp] at hcolumn
    exact Nat.lt_of_lt_of_le hcolumn (Text.length_trimEnd_le _)
  have hcovers : place.covers (before.flatten.length + column) = true :=
    (isLine.covers _).mpr ⟨by omega, by omega⟩
  obtain ⟨c, -, rfl⟩ := List.mem_map.mp hmem
  simp only [hcovers, if_true]

end

/-- A place that is a line is named by the number of this line and its first column. -/
theorem IsLine.location_eq {place : Place} {number start length : Nat}
    (h : place.IsLine number start length) (file : Text) :
    place.location file = file ++ ':' :: Text.digits number ++ ":1" := by
  rw [location, h.first, h.column]
  rfl

end Place

/-! ## Reports -/

/-- **What a report points at.**  Let the lines of a text end with line feeds, and let parsing the
text fail with an error that has a place.  Then the error has the number of a line of the text, and
its report points at this line, in the first column, and covers its characters and no others, if and
only if all characters up to the end of the line take up one byte.  The report writes the message,
and draws the place that is found; if this is the line, then it names the line and the first column,
and shows nothing of the line but in the color of the fault. -/
theorem report_points_at_line {setting : Setting} {kind : DocumentKind} {dir : Path} {text : Text}
    {error : ParseError} {number : Nat} {span : Span}
    (plain : ∀ c ∈ text, ShownLine.isBreak c = true → c = '\n')
    (failed : (setting.parseText kind dir text).result = .error error)
    (told : error.lineNumber? = some number) (placed : error.span? = some span) :
    ∃ fault line, error = .line number span fault ∧
      (Text.lines text)[number - 1]? = some line ∧
      ((∃ place, Place.find? text span = some place ∧
          place.IsLine number (Text.lineStart text number) line.length) ↔
        ∀ c ∈ text.take (Text.lineStart text number + line.length), c.utf8Size = 1) ∧
      ∀ place, Place.find? text span = some place → ∀ file,
        error.report text file = Row.writeAll
          ([⟨.fault, "Error:"⟩, .bare (' ' :: error.message)] :: place.rows file fault.label) ∧
        (place.IsLine number (Text.lineStart text number) line.length →
          place.location file = file ++ ':' :: Text.digits number ++ ":1" ∧
            ∀ piece ∈ place.shown place.first, piece.ink = .fault) := by
  obtain ⟨before, whole, after, hlines, rfl, rfl⟩ :=
    exists_wholeLines_of_error failed told placed
  obtain ⟨fault, rfl⟩ := ParseError.eq_line_of_placed told placed
  obtain ⟨line, hline, hchomp⟩ := Text.exists_lines_of_wholeLines hlines
  rw [Text.chomp_of_mem_lines (ShownLine.return_not_mem plain) (List.mem_of_getElem? hline)]
    at hchomp
  subst hchomp
  have hstart : Text.lineStart text (before.length + 1) = before.flatten.length := by
    rw [Text.lineStart, hlines, Nat.add_sub_cancel, List.take_left]
  rw [hstart]
  refine ⟨fault, _, rfl, hline, Place.exists_isLine_iff plain hlines,
    fun place hplace file => ⟨?_, fun isLine => ⟨isLine.location_eq file, ?_⟩⟩⟩
  · rw [ParseError.report, hplace]
  · exact isLine.ink_eq plain hlines hplace

/-- A character of two bytes behind the line at fault does no harm. -/
theorem report_points_at_line_wide :
    (unaided.parseText .embed "." "# T\n@colour red\né").result
      = .error (.line 2 ⟨4, 15⟩ (.unknownCommand "colour")) ∧
    ∃ place, Place.find? "# T\n@colour red\né" ⟨4, 15⟩ = some place ∧ place.IsLine 2 4 11 ∧
      place.location "test.dem" = "test.dem:2:1" ∧
      ∀ piece ∈ place.shown place.first, piece.ink = .fault := by
  have hfailed : (unaided.parseText .embed "." "# T\n@colour red\né").result
      = .error (.line 2 ⟨4, 15⟩ (.unknownCommand "colour")) := by
    decide +kernel
  obtain ⟨fault, line, -, hline, hpoints, hreport⟩ :=
    report_points_at_line (List.all_iff_forall_prop.mp (by decide)) hfailed rfl rfl
  obtain rfl : "@colour red".toList = line := Option.some.inj hline
  obtain ⟨place, hplace, isLine⟩ := hpoints.mpr (Text.byteSize_eq_length_iff.mp (by decide))
  exact ⟨hfailed, place, hplace, isLine, (hreport place hplace "test.dem").2 isLine⟩

/-- **A report need not point at the line.**  A character of two bytes stands before the line at
fault, so the place is taken to begin in its second column, and to go beyond the text. -/
theorem report_beside_line :
    (unaided.parseText .embed "." "# é\n@colour red").result
      = .error (.line 2 ⟨5, 16⟩ (.unknownCommand "colour")) ∧
    (Text.lines "# é\n@colour red")[1]? = some "@colour red".toList ∧
    ∃ place, Place.find? "# é\n@colour red" ⟨5, 16⟩ = some place ∧
      place.location "test.dem" = "test.dem:2:2" ∧
      ¬place.IsLine 2 (Text.lineStart "# é\n@colour red" 2) 11 := by
  refine ⟨by decide +kernel, by decide +kernel,
    ⟨5, 16, ⟨2, 4, "@colour red"⟩, ⟨2, 4, "@colour red"⟩⟩, by decide +kernel, by decide +kernel,
    fun isLine => absurd isLine.column (by decide)⟩

end ChatEmbed

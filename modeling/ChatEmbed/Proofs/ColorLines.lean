import ChatEmbed.Proofs.Classification
import ChatEmbed.Proofs.Independence
import ChatEmbed.Proofs.Terminators

/-!
# Two ways to write a color

A color can be given by a command or by a sign.  A line with the sign loses its comment and is taken
apart at its first character, and a line with the command keeps its colons and is taken apart at its
first space.  If there is no colon, both come to the same argument, even where it is empty and the
space after the name of the command is trimmed away.

* `Line.classify_shortLine` and `Line.classify_longLine` say what the two lines are read as.
* `Directive.read_eq_of_color` says that they ask for the same.
* `lineEdits_unplaced` is about any two lists of lines that ask for the same one by one: they make
  the same edits, or fail alike but for the place.
* `color_lines_agree` puts this together for one line, in every state, and for whole documents.
-/

set_option autoImplicit false

namespace ChatEmbed

/-! ## Trimming and comments -/

namespace Text

theorem trimEnd_eq_nil_iff {s : Text} : trimEnd s = [] ↔ IsBlank s := by
  rw [isBlank_iff_forall, trimEnd, List.reverse_eq_nil_iff, trimStart, List.dropWhile_eq_nil_iff]
  simp

/-- Trimming stops in a text at the latest where it would stop in its last part. -/
theorem trimEnd_append_of_visible {s : Text} (h : ¬IsBlank s) (before : Text) :
    trimEnd (before ++ s) = before ++ trimEnd s := by
  have hne : s.reverse.dropWhile isBlank ≠ [] := fun hnil ↦
    h (trimEnd_eq_nil_iff.mp (List.reverse_eq_nil_iff.mpr hnil))
  rw [trimEnd, trimEnd, trimStart, trimStart, List.reverse_append, List.dropWhile_append,
    if_neg (by simpa using hne), List.reverse_append, List.reverse_reverse]

theorem trimEnd_append_of_isBlank {s : Text} (h : IsBlank s) (before : Text) :
    trimEnd (before ++ s) = trimEnd before :=
  trimEnd_append_blank (isBlank_iff_forall.mp h)

end Text

/-- There is nothing to take off a line without delimiters, and nothing to undo in it. -/
theorem Comment.content_of_not_mem {line : Text} (h : delimiter ∉ line) :
    content line = (line, false) := by
  induction line with
  | nil => rfl
  | cons c rest ih =>
    have hrest : delimiter ∉ rest := List.not_mem_of_not_mem_cons h
    have hc : c ≠ delimiter := (List.ne_of_not_mem_cons h).symm
    rw [content_cons hc fun _ hhead ↦ hrest (List.mem_of_head? hhead), ih hrest]

/-- The terminator of a line is one of the blanks around it. -/
theorem Line.classify_chomp (line : Text) : classify (Text.chomp line) = classify line := by
  obtain ⟨ending, hending, hline⟩ := Text.exists_eq_chomp_append line
  have hblank : ∀ c ∈ ending, isBlank c = true := by
    intro c hc
    rcases Text.isTerminator_iff.mp (hending c hc) with rfl | rfl <;> decide
  have hbefore : ∀ c ∈ ([] : Text), isBlank c = true := List.forall_mem_nil _
  conv => rhs; rw [hline]
  exact (classify_surrounded hbefore hblank (Text.chomp line)).1.symm

/-! ## The two lines -/

namespace Color

/-- The line that gives a color by its sign. -/
def shortLine (s : Text) : Text :=
  '%' :: s

/-- The line that gives a color by a command. -/
def longLine (s : Text) : Text :=
  "@color " ++ s

/-- What a line with a color asks for: the color, if the argument is one. -/
def directive (argument : Text) : Except LineFault Directive :=
  match Color.read argument with
  | .ok value => .ok (.edit (.color value))
  | .error fault => .error (.invalidColor argument fault)

end Color

open Color

section

variable {s : Text} {kind : DocumentKind} {now : Text}

theorem Line.classify_shortLine (h : ':' ∉ s) : classify (shortLine s) = .color (Text.trimEnd s) := by
  have hvisible : isBlank '%' = false := by decide
  have hstrip : Comment.strip (shortLine s) = (shortLine s, false) := by
    rw [shortLine, Comment.strip_of_not_command, Comment.content_of_not_mem]
    · exact List.not_mem_cons_of_ne_of_not_mem (by decide) h
    · rw [Text.firstVisible?_of_visible hvisible]
      decide
  have htrim : Text.trim (shortLine s) = '%' :: Text.trimEnd s := by
    rw [shortLine, Text.trim, Text.trimStart_eq_self hvisible, ← List.singleton_append]
    by_cases hs : Text.IsBlank s
    · rw [Text.trimEnd_append_of_isBlank hs, Text.trimEnd_eq_nil_iff.mpr hs]
      decide
    · rw [Text.trimEnd_append_of_visible hs]
      rfl
  rw [classify, hstrip, htrim]
  rfl

/-- The line with the command is read so whether or not there is a colon in it. -/
theorem Line.classify_longLine (s : Text) :
    classify (longLine s) = .command "color" (Text.trimEnd s) := by
  have hvisible : isBlank '@' = false := by decide
  have hstrip : Comment.strip (longLine s) = (longLine s, false) :=
    Comment.strip_of_command (Text.firstVisible?_of_visible hvisible _)
  have htrim : Text.trim (longLine s) = Text.trimEnd ("@color " ++ s) := by
    rw [Text.trim]
    exact congrArg Text.trimEnd (Text.trimStart_eq_self hvisible)
  rw [classify, hstrip, htrim]
  by_cases hs : Text.IsBlank s
  · -- nothing is left after the name, and the name ends with the line
    rw [Text.trimEnd_append_of_isBlank hs, Text.trimEnd_eq_nil_iff.mpr hs]
    decide
  · rw [Text.trimEnd_append_of_visible hs]
    have hcut : Text.cut? ' ' ("color".toList ++ ' ' :: Text.trimEnd s)
        = some ("color".toList, Text.trimEnd s) :=
      Text.cut?_eq_some_iff.mpr ⟨rfl, by decide⟩
    have hsplit : splitCommand ("color".toList ++ ' ' :: Text.trimEnd s)
        = ("color".toList, Text.trimEnd s) := by
      rw [splitCommand, hcut, Option.getD_some]
    show Line.command (splitCommand ("color".toList ++ ' ' :: Text.trimEnd s)).1
      (splitCommand ("color".toList ++ ' ' :: Text.trimEnd s)).2 = _
    rw [hsplit]

/-- Both kinds of lines go the same way from their argument on. -/
theorem Directive.ofLine_eq_of_color {raw argument : Text} {line : Line}
    (h : line = .color argument ∨ line = .command "color" argument) :
    ofLine kind now raw line = Color.directive argument := by
  rcases h with rfl | rfl
  · rfl
  · rw [ofLine, ofCommand, Command.decode, Color.directive]
    have hset : Attribute.ofCommand? "color" = none := by decide
    rw [hset]
    cases Color.read argument <;> rfl

/-- **The two lines ask for the same**, also when they are taken from a document with what ends
them. -/
theorem Directive.read_eq_of_color (h : ':' ∉ s) {line : Text}
    (hline : line = shortLine s ∨ line = longLine s) :
    read kind now line = Color.directive (Text.trimEnd s) ∧
      read kind now (Text.chomp line) = Color.directive (Text.trimEnd s) := by
  have hclass : Line.classify line = .color (Text.trimEnd s) ∨
      Line.classify line = .command "color" (Text.trimEnd s) := by
    rcases hline with rfl | rfl
    · exact .inl (Line.classify_shortLine h)
    · exact .inr (Line.classify_longLine s)
  rw [read, read, Line.classify_chomp]
  exact ⟨ofLine_eq_of_color hclass, ofLine_eq_of_color hclass⟩

end

/-! ## Lines that ask for the same -/

/-- Two lines of a document ask for the same, or are at fault for the same reason. -/
def ReadAlike (kind : DocumentKind) (now line other : Text) : Prop :=
  Directive.read kind now (Text.chomp line) = Directive.read kind now (Text.chomp other)

theorem Run.mapError_bind {ε ε' α β : Type} (f : ε → ε') (run : Run ε α) (next : α → Run ε β) :
    (run >>= next).mapError f = run.mapError f >>= fun value ↦ (next value).mapError f := by
  obtain ⟨events, _ | value⟩ := run <;> rfl

section

variable {load : Text → Run ParseError (Option Template)} {kind : DocumentKind} {now : Text}

theorem lineEdit_unplaced {raw other : Text}
    (h : Directive.read kind now raw = Directive.read kind now other) (number number' : Nat)
    (span span' : Span) :
    (lineEdit load kind now number span raw).mapError ParseError.unplaced =
      (lineEdit load kind now number' span' other).mapError ParseError.unplaced := by
  rw [lineEdit, lineEdit, h]
  cases Directive.read kind now other <;> rfl

/-- **Lines that ask for the same one by one** make the same edits, with the same events on the way,
or fail with the same error but for its place. -/
theorem lineEdits_unplaced {lines others : List Text}
    (h : List.Forall₂ (ReadAlike kind now) lines others) (number number' offset offset' : Nat) :
    (lineEdits load kind now number offset lines).mapError ParseError.unplaced =
      (lineEdits load kind now number' offset' others).mapError ParseError.unplaced := by
  induction h generalizing number number' offset offset' with
  | nil => rfl
  | cons hline _ ih =>
    rw [lineEdits, lineEdits, Run.mapError_bind, Run.mapError_bind, lineEdit_unplaced hline]
    congr 1
    funext first
    rw [Run.mapError_bind, Run.mapError_bind, ih]

theorem documentOfLines_unplaced {lines others : List Text}
    (h : List.Forall₂ (ReadAlike kind now) lines others) :
    (documentOfLines load kind now lines).mapError ParseError.unplaced =
      (documentOfLines load kind now others).mapError ParseError.unplaced := by
  rw [documentOfLines, documentOfLines, Run.mapError_bind, Run.mapError_bind,
    lineEdits_unplaced h 1 1 0 0]

end

/-! ## The two lines in a document -/

/-- The draft after one more line. -/
def Draft.afterLine (load : Text → Run ParseError (Option Template)) (kind : DocumentKind)
    (now : Text) (number : Nat) (span : Span) (raw : Text) (draft : Draft) : Run ParseError Draft := do
  let edit ← lineEdit load kind now number span raw
  return draft.apply edit

/-- **The sign and the command for a color agree** on an argument without a colon.

In every state of a document of any kind, at every place, both lines read the argument without the
blanks at its end.  If it is a color, they set this color and change nothing else; if not, they fail
with this argument and the reason why it is none.  A document in which one line takes the place of
the other asks for the same files, and is the same document or fails alike but for the place. -/
theorem color_lines_agree {s : Text} (h : ':' ∉ s) :
    (∀ load kind now number span, ∀ line ∈ [shortLine s, longLine s], ∀ draft : Draft,
      (∃ value, Color.read (Text.trimEnd s) = .ok value ∧
        draft.afterLine load kind now number span line =
          pure (draft.mapAttributes ({ · with color := value }))) ∨
      ∃ fault, Color.read (Text.trimEnd s) = .error fault ∧
        draft.afterLine load kind now number span line =
          .fail (.line number span (.invalidColor (Text.trimEnd s) fault))) ∧
    ∀ (setting : Setting) kind dir before after,
      (setting.parseLines kind dir (before ++ shortLine s :: after)).mapError ParseError.unplaced =
        (setting.parseLines kind dir (before ++ longLine s :: after)).mapError
          ParseError.unplaced := by
  constructor
  · intro load kind now number span line hline draft
    have hread : Directive.read kind now line = Color.directive (Text.trimEnd s) :=
      (Directive.read_eq_of_color h (by simpa using hline)).1
    rw [Draft.afterLine, lineEdit, hread, Color.directive]
    cases hvalue : Color.read (Text.trimEnd s) with
    | ok value => exact .inl ⟨value, rfl, rfl⟩
    | error fault => exact .inr ⟨fault, rfl, rfl⟩
  · intro setting kind dir before after
    have hrefl (lines : List Text) : List.Forall₂ (ReadAlike kind setting.now) lines lines :=
      List.forall₂_same.mpr fun _ _ ↦ rfl
    have hsame : ReadAlike kind setting.now (shortLine s) (longLine s) :=
      (Directive.read_eq_of_color h (.inl rfl)).2.trans
        (Directive.read_eq_of_color h (.inr rfl)).2.symm
    exact documentOfLines_unplaced (List.rel_append (hrefl before) (.cons hsame (hrefl after)))

/-- A color with a wide space before it and other blanks in and after it. -/
def Color.spaced : Text := "\u2003255, 0 ,7\t"

/-- An argument that ends with an escape mark. -/
def Color.marked : Text := " \\"

/-- Blanks are part of an argument only before its last character, and an escape mark is. -/
theorem color_lines_agree_spaced :
    ':' ∉ spaced ∧ ':' ∉ marked ∧
    (∀ line ∈ [shortLine spaced, longLine spaced],
      Draft.afterLine (fun _ ↦ pure none) .template [] 4 ⟨20, 32⟩ line {} =
        pure { blueprint := { embed := { attributes := { color := 0xFF0007 } } } }) ∧
    (∀ line ∈ [shortLine marked, longLine marked],
      Draft.afterLine (fun _ ↦ pure none) .template [] 4 ⟨20, 23⟩ line {} =
        .fail (.line 4 ⟨20, 23⟩ (.invalidColor " \\" (.digitExpected '\\')))) ∧
    (lone.parseLines .embed "." ["# A".toList, shortLine spaced]).mapError ParseError.unplaced =
      (lone.parseLines .embed "." ["# A".toList, longLine spaced]).mapError
        ParseError.unplaced := by
  have hspaced : ':' ∉ spaced := by decide
  have hmarked : ':' ∉ marked := by decide
  have hvalue : Color.read (Text.trimEnd spaced) = .ok 0xFF0007 := by decide +kernel
  have htrim : Text.trimEnd marked = " \\".toList := by decide
  have hfault : Color.read " \\" = .error (.digitExpected '\\') := by decide +kernel
  obtain ⟨hline, hdocument⟩ := color_lines_agree hspaced
  obtain ⟨hother, -⟩ := color_lines_agree hmarked
  rw [htrim] at hother
  refine ⟨hspaced, hmarked, fun line hmem ↦ ?_, fun line hmem ↦ ?_,
    hdocument lone .embed "." ["# A".toList] []⟩
  · rcases hline (fun _ ↦ pure none) .template [] 4 ⟨20, 32⟩ line hmem {} with
      ⟨value, hread, hrun⟩ | ⟨fault, hread, -⟩
    · cases hvalue.symm.trans hread
      exact hrun
    · cases hvalue.symm.trans hread
  · rcases hother (fun _ ↦ pure none) .template [] 4 ⟨20, 23⟩ line hmem {} with
      ⟨value, hread, -⟩ | ⟨fault, hread, hrun⟩
    · cases hfault.symm.trans hread
    · cases hfault.symm.trans hread
      exact hrun

end ChatEmbed

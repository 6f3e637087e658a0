import ChatEmbed.Proofs.Templates

/-!
# Where an error comes from

A document fails because one of its lines does, and that line would fail as well if it were the only
one.  Nothing that was gathered before, the title, the fields, the flag for a blank line, the
attributes, the templates already loaded, has a say in it.  What the other lines do decide is the
place of the line, and they do so by their number and their size alone.  Here this is so because lines
are read before anything is gathered; `Engine.lines_alike` says it of an engine that gathers as it
reads.

* `Setting.parseBelow` parses lines while some templates are being read already.  Without any it is
  `Setting.parseLines`.
* `lineSpan` is the place of a line after others, and `Span.slice_lineSpan` says that the bytes at
  that place, in the text that the lines make, are the bytes of the line.
* `ParseError.placedAt` moves an error of a line to another place.  An error that comes out of a
  template has no place in the document, so it stays as it is.
* `parseBelow_fails_at_first` says that a document fails with the error of its first line that fails
  on its own, moved to the place of that line.
-/

set_option autoImplicit false

namespace ChatEmbed

/-! ## Bytes of a text -/

namespace Text

/-- The bytes of the UTF-8 form. -/
def utf8 (s : Text) : List UInt8 := s.flatMap String.utf8EncodeChar

theorem utf8_append (s t : Text) : utf8 (s ++ t) = utf8 s ++ utf8 t := List.flatMap_append

theorem length_utf8 (s : Text) : (utf8 s).length = byteSize s := by
  induction s with
  | nil => rfl
  | cons c r ih => rw [utf8, List.flatMap_cons, List.length_append, String.length_utf8EncodeChar,
      ← utf8, ih, byteSize_cons]

theorem join_cons_of_ne_nil {rest : List Text} (h : rest ≠ []) (sep s : Text) :
    join sep (s :: rest) = s ++ sep ++ join sep rest := by
  cases rest with
  | nil => exact absurd rfl h
  | cons => rfl

end Text

/-- The bytes of a text that a span covers. -/
def Span.slice (span : Span) (s : Text) : List UInt8 :=
  ((Text.utf8 s).take span.stop).drop span.start

/-- The bytes of a part of a text stand where the part does. -/
theorem Span.slice_append (head s tail : Text) :
    Span.slice ⟨Text.byteSize head, Text.byteSize head + Text.byteSize s⟩ (head ++ s ++ tail)
      = Text.utf8 s := by
  have hstop : Text.byteSize head + Text.byteSize s = (Text.utf8 (head ++ s)).length := by
    rw [Text.length_utf8, Text.byteSize_append]
  rw [slice, Text.utf8_append (head ++ s), hstop, List.take_left, Text.utf8_append,
    ← Text.length_utf8, List.drop_left]

/-! ## The place of a line -/

/-- The text that the lines make: each line without its terminator, and a line feed between them. -/
def sourceText (lines : List Text) : Text := Text.join ['\n'] (lines.map Text.chomp)

/-- The place of a line that comes after others. -/
def lineSpan (before : List Text) (line : Text) : Span :=
  ⟨sourceSize before, sourceSize before + Text.byteSize (Text.chomp line)⟩

/-- What comes before a line takes up as many bytes as `sourceSize` counts. -/
theorem exists_sourceText_eq (before : List Text) (line : Text) (after : List Text) :
    ∃ head tail, sourceText (before ++ line :: after) = head ++ Text.chomp line ++ tail ∧
      Text.byteSize head = sourceSize before := by
  induction before with
  | nil =>
    cases after with
    | nil => exact ⟨[], [], by simp [sourceText, Text.join], rfl⟩
    | cons next rest =>
      refine ⟨[], '\n' :: sourceText (next :: rest), ?_, rfl⟩
      simp [sourceText, Text.join]
  | cons first before ih =>
    obtain ⟨head, tail, htext, hsize⟩ := ih
    refine ⟨Text.chomp first ++ ['\n'] ++ head, tail, ?_, ?_⟩
    · have hne : (before ++ line :: after).map Text.chomp ≠ [] := by simp
      rw [List.cons_append, sourceText, List.map_cons, Text.join_cons_of_ne_nil hne, ← sourceText,
        htext]
      simp only [List.append_assoc]
    · have hbreak : Text.byteSize ['\n'] = 1 := rfl
      rw [Text.byteSize_append, Text.byteSize_append, hsize, hbreak, sourceSize]

/-- **The place of a line is where its bytes are.** -/
theorem Span.slice_lineSpan (before : List Text) (line : Text) (after : List Text) :
    (lineSpan before line).slice (sourceText (before ++ line :: after)) =
      Text.utf8 (Text.chomp line) := by
  obtain ⟨head, tail, htext, hsize⟩ := exists_sourceText_eq before line after
  rw [lineSpan, htext, ← hsize, slice_append]

/-- **A document fails at its first line that makes no edit**, with the error that the line has at
its place. -/
theorem documentOfLines_eq_error_iff_exists {load : Text → Run ParseError (Option Template)}
    {kind : DocumentKind} {now : Text} {lines : List Text} {error : ParseError} :
    (documentOfLines load kind now lines).result = .error error ↔
      ∃ before line after, lines = before ++ line :: after ∧
        (∀ l ∈ before, ∃ edit, Makes load kind now l edit) ∧
        (lineEdit load kind now (before.length + 1) (lineSpan before line)
          (Text.chomp line)).result = .error error := by
  rw [documentOfLines_eq_error_iff, lineEdits_eq_error_iff]
  simp only [Nat.add_comm 1, Nat.zero_add, lineSpan]

/-- The error with the line at fault at another place. -/
def ParseError.placedAt (number : Nat) (span : Span) : ParseError → ParseError
  | .line _ _ fault => .line number span fault
  | error => error

/-! ## A line on its own -/

/-- The document that the lines make while the templates of the chain are being read, with further
templates sought from a directory. -/
def Setting.parseBelow (setting : Setting) (chain : List Path) (kind : DocumentKind) (dir : Path)
    (lines : List Text) : Run ParseError Blueprint :=
  documentOfLines (loadTemplate setting (setting.config.maxDepth - chain.length) chain dir) kind
    setting.now lines

theorem parseBelow_nil (setting : Setting) (kind : DocumentKind) (dir : Path) (lines : List Text) :
    setting.parseBelow [] kind dir lines = setting.parseLines kind dir lines := rfl

/-- What goes wrong with a template is not told with a place in the document. -/
theorem placedAt_eq_self_of_load {setting : Setting} {room : Nat} {chain : List Path} {dir : Path}
    {name : Text} {error : ParseError}
    (h : (loadTemplate setting room chain dir name).result = .error error) (number : Nat)
    (span : Span) : error.placedAt number span = error := by
  cases loadTemplate_eq_iff.mp h <;> rfl

section

variable {setting : Setting} {room : Nat} {chain : List Path} {kind : DocumentKind} {dir : Path}
variable {line : Text}

/-- A line fails in the same way at all places, but for the place. -/
theorem lineEdit_eq_error_of_lineEdit {number : Nat} {span : Span} {error : ParseError}
    (h : (lineEdit (loadTemplate setting room chain dir) kind setting.now number span
      (Text.chomp line)).result = .error error) (other : Nat) (otherSpan : Span) :
    (lineEdit (loadTemplate setting room chain dir) kind setting.now other otherSpan
      (Text.chomp line)).result = .error (error.placedAt other otherSpan) := by
  rw [lineEdit_eq_error_iff] at h ⊢
  rcases h with ⟨fault, hfault, rfl⟩ | ⟨name, hname, hload⟩
  · exact .inl ⟨fault, hfault, rfl⟩
  · refine .inr ⟨name, hname, ?_⟩
    rw [placedAt_eq_self_of_load hload]
    exact hload

/-- To move an error twice is to move it once. -/
theorem ParseError.placedAt_placedAt (error : ParseError) (number other : Nat)
    (span otherSpan : Span) :
    (error.placedAt number span).placedAt other otherSpan = error.placedAt other otherSpan := by
  cases error <;> rfl

/-- A line is a document of its own, at the place of a first line. -/
theorem parseBelow_singleton_eq_error_iff {error : ParseError} :
    (setting.parseBelow chain kind dir [line]).result = .error error ↔
      (lineEdit (loadTemplate setting (setting.config.maxDepth - chain.length) chain dir) kind
        setting.now 1 (lineSpan [] line) (Text.chomp line)).result = .error error := by
  rw [Setting.parseBelow, documentOfLines_eq_error_iff_exists]
  constructor
  · rintro ⟨before, other, after, hlines, -, herror⟩
    obtain ⟨rfl, hother⟩ := List.singleton_eq_append_iff.mp hlines |>.resolve_right (by simp)
    obtain ⟨rfl, rfl⟩ := List.cons.inj hother
    exact herror
  · intro herror
    exact ⟨[], line, [], rfl, List.forall_mem_nil _, herror⟩

/-- A line is accepted as a document of its own when it makes an edit. -/
theorem exists_parseBelow_singleton_iff :
    (∃ document, (setting.parseBelow chain kind dir [line]).result = .ok document) ↔
      ∃ edit, Makes (loadTemplate setting (setting.config.maxDepth - chain.length) chain dir) kind
        setting.now line edit := by
  rw [Setting.parseBelow, exists_documentOfLines_iff, List.forall_mem_singleton]

/-! ## Many lines -/

variable {lines : List Text}

/-- **A document fails like its first line that fails on its own.** -/
theorem parseBelow_eq_error_iff {error : ParseError} :
    (setting.parseBelow chain kind dir lines).result = .error error ↔
      ∃ before line after own, lines = before ++ line :: after ∧
        (∀ l ∈ before, ∃ document, (setting.parseBelow chain kind dir [l]).result = .ok document) ∧
        (setting.parseBelow chain kind dir [line]).result = .error own ∧
        error = own.placedAt (before.length + 1) (lineSpan before line) := by
  simp only [exists_parseBelow_singleton_iff, parseBelow_singleton_eq_error_iff]
  rw [Setting.parseBelow, documentOfLines_eq_error_iff_exists]
  constructor
  · rintro ⟨before, line, after, rfl, hbefore, herror⟩
    refine ⟨before, line, after, _, rfl, hbefore, lineEdit_eq_error_of_lineEdit herror _ _, ?_⟩
    have hplace := lineEdit_eq_error_of_lineEdit herror (before.length + 1) (lineSpan before line)
    rw [hplace] at herror
    rw [ParseError.placedAt_placedAt]
    exact (Except.error.inj herror).symm
  · rintro ⟨before, line, after, own, rfl, hbefore, hown, rfl⟩
    exact ⟨before, line, after, rfl, hbefore, lineEdit_eq_error_of_lineEdit hown _ _⟩

/-- A document is accepted when all of its lines are, each on its own. -/
theorem exists_parseBelow_iff :
    (∃ document, (setting.parseBelow chain kind dir lines).result = .ok document) ↔
      ∀ line ∈ lines, ∃ document,
        (setting.parseBelow chain kind dir [line]).result = .ok document := by
  simp only [exists_parseBelow_singleton_iff]
  rw [Setting.parseBelow, exists_documentOfLines_iff]

end

/-- **Errors are local to a line, and exactly located.**  Whatever templates are being read, a
document fails if and only if one of its lines does on its own.  It then fails with the error of the
first such line, whatever comes after, moved to the number of that line and to the place of its
bytes. -/
theorem parseBelow_fails_at_first (setting : Setting) (chain : List Path) (kind : DocumentKind)
    (dir : Path) (lines : List Text) :
    ((∃ error, (setting.parseBelow chain kind dir lines).result = .error error) ↔
      ∃ line ∈ lines, ∃ error, (setting.parseBelow chain kind dir [line]).result = .error error) ∧
    ∀ error, (setting.parseBelow chain kind dir lines).result = .error error ↔
      ∃ before line after own, lines = before ++ line :: after ∧
        (∀ l ∈ before, ∃ document, (setting.parseBelow chain kind dir [l]).result = .ok document) ∧
        (setting.parseBelow chain kind dir [line]).result = .error own ∧
        error = own.placedAt (before.length + 1) (lineSpan before line) ∧
        (lineSpan before line).slice (sourceText lines) = Text.utf8 (Text.chomp line) := by
  refine ⟨⟨?_, ?_⟩, fun error ↦ ⟨?_, ?_⟩⟩
  · rintro ⟨error, herror⟩
    obtain ⟨before, line, after, own, rfl, -, hown, -⟩ := parseBelow_eq_error_iff.mp herror
    exact ⟨line, List.mem_append_right _ List.mem_cons_self, own, hown⟩
  · rintro ⟨line, hline, own, hown⟩
    rcases hresult : (setting.parseBelow chain kind dir lines).result with error | document
    · exact ⟨error, rfl⟩
    · obtain ⟨alone, halone⟩ := exists_parseBelow_iff.mp ⟨document, hresult⟩ line hline
      rw [hown] at halone
      cases halone
  · intro herror
    obtain ⟨before, line, after, own, rfl, hbefore, hown, rfl⟩ := parseBelow_eq_error_iff.mp herror
    exact ⟨before, line, after, own, rfl, hbefore, hown, rfl, Span.slice_lineSpan ..⟩
  · rintro ⟨before, line, after, own, hlines, hbefore, hown, herror, -⟩
    exact parseBelow_eq_error_iff.mpr ⟨before, line, after, own, hlines, hbefore, hown, herror⟩

/-- A template without a fault. -/
def faultless : Setting where
  source := MemoryFiles.source ⟨[("fine.template.dem", "%1".toList)]⟩

/-- Lines of several bytes a character, with and without terminators, stand before the line at
fault, and the unknown command after it does not count. -/
theorem parseBelow_fails_at_first_after_wide :
    (faultless.parseBelow ["top.template.dem"] .embed "." ["# é\r\n".toList, "".toList,
        "@template fine".toList, "%300\n".toList, "@colour".toList]).result
      = .error (.line 4 ⟨21, 25⟩ (.invalidColor "300" (.outOfRange "300"))) ∧
    Span.slice ⟨21, 25⟩ (sourceText ["# é\r\n".toList, "".toList, "@template fine".toList,
        "%300\n".toList, "@colour".toList]) = Text.utf8 "%300" := by
  have htitle : (faultless.parseBelow ["top.template.dem"] .embed "." ["# é\r\n".toList]).result
      = .ok { embed := { title := "é".toList } } := by decide +kernel
  have hblank : (faultless.parseBelow ["top.template.dem"] .embed "." ["".toList]).result
      = .ok {} := by decide +kernel
  have hfine :
      (faultless.parseBelow ["top.template.dem"] .embed "." ["@template fine".toList]).result
        = .ok { embed := { attributes := { color := 0x010101 } } } := by decide +kernel
  have hcolor : (faultless.parseBelow ["top.template.dem"] .embed "." ["%300\n".toList]).result
      = .error (.line 1 ⟨0, 4⟩ (.invalidColor "300" (.outOfRange "300"))) := by decide +kernel
  refine ⟨((parseBelow_fails_at_first faultless ["top.template.dem"] .embed "." _).2 _).mpr
    ⟨["# é\r\n".toList, "".toList, "@template fine".toList], "%300\n".toList,
      ["@colour".toList], _, rfl, ?_, hcolor, ?_, ?_⟩, ?_⟩
  · refine List.forall_mem_cons.mpr ⟨⟨_, htitle⟩, List.forall_mem_cons.mpr ⟨⟨_, hblank⟩, ?_⟩⟩
    exact List.forall_mem_singleton.mpr ⟨_, hfine⟩
  all_goals decide +kernel

end ChatEmbed

import ChatEmbed.Proofs.Lines

/-!
# Content and directives do not interfere

The lines of a document come in two strands, its content and its directives.  A document may mix the
strands as it likes: nothing but the order within each of them matters.  This has two sides.

* If all lines are accepted, the edits of the two strands can be made one strand after the other,
  because an edit of content commutes with any other edit (`apply_comm`).
* If some line is not, then the first line that fails is a directive, since content cannot fail in a
  document that may have any.  It is the first directive that fails, which the strand determines.

The place of a line is the one thing that does depend on the mixture, and `ParseError.unplaced`
forgets it.
-/

set_option autoImplicit false

namespace ChatEmbed

/-- The error without the place of the line at fault.  The place of a line of a template does not
change with the document, so it stays. -/
def ParseError.unplaced : ParseError → ParseError
  | .line _ _ fault => .line 0 ⟨0, 0⟩ fault
  | error => error

/-- Whether a source line is content. -/
def isContentLine (line : Text) : Bool := (Line.ofSource line).isContent

/-- The lines mix these two strands, keeping the order of each. -/
structure Mixes (content directives lines : List Text) : Prop where
  content : lines.filter isContentLine = content
  directives : (lines.filter fun line ↦ !isContentLine line) = directives

/-! ## Edits -/

/-- **An edit of content commutes with an edit of a directive.**  The one looks at the text, the
titles and the flag for a blank line, and the other at none of them. -/
theorem Draft.apply_comm {content directive : Edit} (hcontent : content.isContent = true)
    (hdirective : directive.isContent = false) (draft : Draft) :
    (draft.apply content).apply directive = (draft.apply directive).apply content := by
  cases content with
  | write text =>
    obtain ⟨blueprint, target, afterBlank⟩ := draft
    cases directive with
    | blank | write | title | field => cases hdirective
    | _ => cases target <;> rfl
  | blank | title | field =>
    cases directive with
    | blank | write | title | field => cases hdirective
    | _ => rfl
  | _ => cases hcontent

section

variable {α β : Type} {f : β → α → β} {p : α → Bool}

/-- A step that commutes with all steps of a list can be made after them instead of before. -/
theorem foldl_apply_of_comm {a : α} {l : List α} (h : ∀ b, ∀ x ∈ l, f (f b x) a = f (f b a) x)
    (b : β) : l.foldl f (f b a) = f (l.foldl f b) a := by
  induction l generalizing b with
  | nil => rfl
  | cons x rest ih =>
    rw [List.foldl_cons, List.foldl_cons, ← h b x List.mem_cons_self]
    exact ih (fun b y hy ↦ h b y (List.mem_cons_of_mem x hy)) (f b x)

/-- If steps of one kind commute with steps of the other, they can all be made first. -/
theorem foldl_eq_foldl_filter (h : ∀ b x y, p x = true → p y = false → f (f b x) y = f (f b y) x)
    (l : List α) (b : β) :
    l.foldl f b = (l.filter fun a ↦ !p a).foldl f ((l.filter p).foldl f b) := by
  induction l generalizing b with
  | nil => rfl
  | cons a rest ih =>
    rw [List.foldl_cons, ih]
    cases ha : p a with
    | true =>
      rw [List.filter_cons_of_pos ha, List.filter_cons_of_neg (by simp [ha]), List.foldl_cons]
    | false =>
      rw [List.filter_cons_of_neg (by simp [ha]), List.filter_cons_of_pos (by simp [ha]),
        List.foldl_cons, foldl_apply_of_comm fun b x hx ↦ ?_]
      exact h b x a (List.mem_filter.mp hx).2 ha

end

/-- **Only the two strands of edits matter** for the draft that they build. -/
theorem Draft.ofEdits_eq_of_filter_eq {first second : List Edit}
    (hcontent : first.filter Edit.isContent = second.filter Edit.isContent)
    (hdirectives : (first.filter fun edit ↦ !edit.isContent) =
      second.filter fun edit ↦ !edit.isContent) : ofEdits first = ofEdits second := by
  have hcomm (draft : Draft) (x y : Edit) (hx : x.isContent = true) (hy : y.isContent = false) :
      (draft.apply x).apply y = (draft.apply y).apply x := apply_comm hx hy draft
  rw [ofEdits, ofEdits, foldl_eq_foldl_filter hcomm first, foldl_eq_foldl_filter hcomm second,
    hcontent, hdirectives]

/-! ## Lines -/

section

variable {load : Text → Run ParseError (Option Template)} {kind : DocumentKind} {now : Text}

/-- A line makes at most one edit. -/
theorem Makes.unique {line : Text} {first second : Edit} (hfirst : Makes load kind now line first)
    (hsecond : Makes load kind now line second) : first = second := by
  obtain ⟨directive, hasks, hresult⟩ := hfirst
  obtain ⟨other, hother, hresult'⟩ := hsecond
  rw [← hasks.unique hother, hresult] at hresult'
  exact Except.ok.inj hresult'

/-- Content is always accepted in a document that may have any. -/
theorem exists_makes_of_isContentLine {line : Text} (hkind : kind ≠ .template)
    (h : isContentLine line = true) : ∃ edit, Makes load kind now line edit := by
  rw [isContentLine] at h
  have hasks : ∃ edit, (Line.ofSource line).Asks kind now (.edit edit) := by
    generalize Line.ofSource line = l at h
    cases l with
    | heading title => exact ⟨_, .title hkind⟩
    | subheading title => exact ⟨_, .field hkind⟩
    | text content =>
      by_cases hempty : content = []
      · subst hempty
        exact ⟨_, .blank⟩
      · exact ⟨_, .write hempty hkind⟩
    | _ => cases h
  obtain ⟨edit, hedit⟩ := hasks
  exact ⟨edit, _, hedit, rfl⟩

/-- The edits of a strand are the strand of the edits. -/
theorem forall₂_filter {lines : List Text} {edits : List Edit}
    (h : List.Forall₂ (Makes load kind now) lines edits) :
    List.Forall₂ (Makes load kind now) (lines.filter isContentLine)
        (edits.filter Edit.isContent) ∧
      List.Forall₂ (Makes load kind now) (lines.filter fun line ↦ !isContentLine line)
        (edits.filter fun edit ↦ !edit.isContent) := by
  constructor
  · refine List.rel_filter (fun line edit hmakes ↦ ?_) h
    dsimp only
    rw [hmakes.isContent_eq, isContentLine]
  · refine List.rel_filter (fun line edit hmakes ↦ ?_) h
    dsimp only
    rw [hmakes.isContent_eq, isContentLine]

/-- The same line fails in the same way wherever it stands. -/
theorem unplaced_eq_of_lineEdit {raw : Text} {number number' : Nat} {span span' : Span}
    {error error' : ParseError}
    (h : (lineEdit load kind now number span raw).result = .error error)
    (h' : (lineEdit load kind now number' span' raw).result = .error error') :
    error.unplaced = error'.unplaced := by
  rw [lineEdit] at h h'
  cases hread : Directive.read kind now raw with
  | ok directive =>
    rw [hread] at h h'
    dsimp only at h h'
    rw [h] at h'
    rw [Except.error.inj h']
  | error fault =>
    rw [hread] at h h'
    cases h
    cases h'
    rfl

/-- The first element of a list that does not have a property is determined by the list. -/
theorem eq_of_first_failure {α : Type} {P : α → Prop} {before before' after after' : List α}
    {a a' : α} (h : before ++ a :: after = before' ++ a' :: after')
    (hbefore : ∀ x ∈ before, P x) (ha : ¬P a) (hbefore' : ∀ x ∈ before', P x) (ha' : ¬P a') :
    a = a' := by
  induction before generalizing before' with
  | nil =>
    cases before' with
    | nil => exact (List.cons.inj h).1
    | cons x rest =>
      obtain ⟨rfl, -⟩ := List.cons.inj h
      exact absurd (hbefore' _ List.mem_cons_self) ha
  | cons y rest ih =>
    cases before' with
    | nil =>
      obtain ⟨rfl, -⟩ := List.cons.inj h
      exact absurd (hbefore _ List.mem_cons_self) ha'
    | cons x rest' =>
      exact ih (List.cons.inj h).2 (List.forall_mem_cons.mp hbefore).2
        (List.forall_mem_cons.mp hbefore').2

/-! ## Mixtures -/

variable {content directives first second : List Text}

/-- A line of one mixture is a line of every other. -/
theorem Mixes.mem_of_mem (hfirst : Mixes content directives first)
    (hsecond : Mixes content directives second) {line : Text} (h : line ∈ first) :
    line ∈ second := by
  cases hline : isContentLine line with
  | true =>
    have hmem : line ∈ first.filter isContentLine := List.mem_filter.mpr ⟨h, hline⟩
    rw [hfirst.content, ← hsecond.content] at hmem
    exact (List.mem_filter.mp hmem).1
  | false =>
    have hmem : line ∈ first.filter fun line ↦ !isContentLine line :=
      List.mem_filter.mpr ⟨h, by rw [hline]; rfl⟩
    rw [hfirst.directives, ← hsecond.directives] at hmem
    exact (List.mem_filter.mp hmem).1

/-- **A mixture is accepted if another one is**, and makes the same document. -/
theorem Mixes.documentOfLines_eq_ok (hfirst : Mixes content directives first)
    (hsecond : Mixes content directives second) {document : Blueprint}
    (h : (documentOfLines load kind now first).result = .ok document) :
    (documentOfLines load kind now second).result = .ok document := by
  obtain ⟨edits, hedits, rfl⟩ := documentOfLines_eq_ok_iff.mp h
  obtain ⟨other, hother⟩ := exists_documentOfLines_iff.mpr fun line hline ↦
    exists_documentOfLines_iff.mp ⟨_, h⟩ line (hsecond.mem_of_mem hfirst hline)
  obtain ⟨others, hothers, rfl⟩ := documentOfLines_eq_ok_iff.mp hother
  have hunique : Relator.RightUnique (List.Forall₂ (Makes load kind now)) :=
    Relator.RightUnique.forall₂ fun _ _ _ ↦ Makes.unique
  obtain ⟨hcontent, hdirectives⟩ := forall₂_filter hedits
  obtain ⟨hcontent', hdirectives'⟩ := forall₂_filter hothers
  rw [hfirst.content] at hcontent
  rw [hsecond.content] at hcontent'
  rw [hfirst.directives] at hdirectives
  rw [hsecond.directives] at hdirectives'
  rw [hother, Draft.ofEdits_eq_of_filter_eq (hunique hcontent' hcontent)
    (hunique hdirectives' hdirectives)]

/-- A mixture that is not accepted fails at the first directive that fails. -/
theorem Mixes.exists_directive_of_error (h : Mixes content directives first)
    (hkind : kind ≠ .template) {error : ParseError}
    (herror : (documentOfLines load kind now first).result = .error error) :
    ∃ before line after, directives = before ++ line :: after ∧
      (∀ l ∈ before, ∃ edit, Makes load kind now l edit) ∧
      (¬∃ edit, Makes load kind now line edit) ∧
      ∃ number span,
        (lineEdit load kind now number span (Text.chomp line)).result = .error error := by
  obtain ⟨before, line, after, rfl, hbefore, hline⟩ :=
    lineEdits_eq_error_iff.mp (documentOfLines_eq_error_iff.mp herror)
  have hfails : ¬∃ edit, Makes load kind now line edit := by
    rintro ⟨edit, hedit⟩
    rw [lineEdit_eq_ok_iff.mpr hedit] at hline
    cases hline
  have hdirective : isContentLine line = false :=
    Bool.eq_false_iff.mpr fun hcontent ↦ hfails (exists_makes_of_isContentLine hkind hcontent)
  refine ⟨before.filter fun line ↦ !isContentLine line, line,
    after.filter fun line ↦ !isContentLine line, ?_, ?_, hfails, _, _, hline⟩
  · rw [← h.directives, List.filter_append, List.filter_cons_of_pos (by rw [hdirective]; rfl)]
  · intro l hl
    exact hbefore l (List.mem_filter.mp hl).1

end

/-- **Content and directives do not interfere.**  Two documents that mix the same content with the
same directives, which may be commands, colors, timestamps and inclusions, are either both accepted
and then the same, or both fail, and then with the same error but for the place of the line. -/
theorem parseLines_mixture {setting : Setting} {kind : DocumentKind} {dir : Path}
    {content directives first second : List Text} (hkind : kind ≠ .template)
    (hfirst : Mixes content directives first) (hsecond : Mixes content directives second) :
    (∃ document, (setting.parseLines kind dir first).result = .ok document ∧
      (setting.parseLines kind dir second).result = .ok document) ∨
    ∃ error other, (setting.parseLines kind dir first).result = .error error ∧
      (setting.parseLines kind dir second).result = .error other ∧
      error.unplaced = other.unplaced := by
  rcases herror : (setting.parseLines kind dir first).result with error | document
  · right
    rcases hother : (setting.parseLines kind dir second).result with other | document
    · refine ⟨error, other, rfl, rfl, ?_⟩
      obtain ⟨before, line, after, hlines, hbefore, hfails, _, _, hline⟩ :=
        hfirst.exists_directive_of_error hkind herror
      obtain ⟨before', line', after', hlines', hbefore', hfails', _, _, hline'⟩ :=
        hsecond.exists_directive_of_error hkind hother
      have hsame : line = line' :=
        eq_of_first_failure (hlines.symm.trans hlines') hbefore hfails hbefore' hfails'
      subst hsame
      exact unplaced_eq_of_lineEdit hline hline'
    · have hok := hsecond.documentOfLines_eq_ok hfirst hother
      rw [Setting.parseLines, hok] at herror
      cases herror
  · exact .inl ⟨document, rfl, hfirst.documentOfLines_eq_ok hsecond herror⟩

/-- A single template. -/
def lone : Setting where
  source := MemoryFiles.source ⟨[("t.template.dem", "@url B\n%1".toList)]⟩
  config := { maxDepth := 3 }

/-- Directives that stand between two paragraphs do not close the gap between them, and may as well
come last. -/
theorem parseLines_mixture_between_paragraphs :
    (lone.parseLines .embed "." ["# A".toList, "one".toList, "".toList, "@template t".toList,
        "@image C".toList, "two".toList]).result
      = .ok { embed := {
          title := "A".toList, text := " one\ntwo".toList, image := "C".toList,
          attributes := { url := "B".toList, color := 0x010101 } } } ∧
    (lone.parseLines .embed "." ["# A".toList, "one".toList, "".toList, "two".toList,
        "@template t".toList, "@image C".toList]).result
      = .ok { embed := {
          title := "A".toList, text := " one\ntwo".toList, image := "C".toList,
          attributes := { url := "B".toList, color := 0x010101 } } } := by
  have hbetween : (lone.parseLines .embed "." ["# A".toList, "one".toList, "".toList,
        "@template t".toList, "@image C".toList, "two".toList]).result
      = .ok { embed := {
          title := "A".toList, text := " one\ntwo".toList, image := "C".toList,
          attributes := { url := "B".toList, color := 0x010101 } } } := by
    decide +kernel
  have hfirst : Mixes ["# A".toList, "one".toList, "".toList, "two".toList]
      ["@template t".toList, "@image C".toList] ["# A".toList, "one".toList, "".toList,
        "@template t".toList, "@image C".toList, "two".toList] :=
    ⟨by decide +kernel, by decide +kernel⟩
  have hsecond : Mixes ["# A".toList, "one".toList, "".toList, "two".toList]
      ["@template t".toList, "@image C".toList] ["# A".toList, "one".toList, "".toList,
        "two".toList, "@template t".toList, "@image C".toList] :=
    ⟨by decide +kernel, by decide +kernel⟩
  refine ⟨hbetween, ?_⟩
  have hkind : DocumentKind.embed ≠ .template := by decide
  rcases @parseLines_mixture lone _ "." _ _ _ _ hkind hfirst hsecond with
    ⟨document, hdocument, hother⟩ | ⟨error, _, herror, _⟩
  · rw [hbetween] at hdocument
    rw [hother, hdocument]
  · rw [hbetween] at herror
    cases herror

end ChatEmbed

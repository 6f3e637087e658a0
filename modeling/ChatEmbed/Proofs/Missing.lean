import ChatEmbed.Proofs.Attributes
import ChatEmbed.Proofs.Inclusion
import ChatEmbed.Proofs.Locality

/-!
# Templates that do not exist

A line that asks for a template which does not exist should be as good as no line.  So let some of
these lines be omitted, from the document and from the files that it comes to.

* `Omits` and `OmitsInFiles` say which lines are omitted, and `Moved` says what becomes of an error:
  it has the new place of the same line.
* Nothing else changes, with one exception.  The limit on the depth is looked at before the file is,
  so one template too many is an error also if it does not exist.  `Blocked` is this exception: the
  line at fault is one of those that are omitted.
-/

set_option autoImplicit false

namespace ChatEmbed

/-! ## Lines that are omitted -/

/-- There is no file at the path. -/
def Setting.Lacks (setting : Setting) (path : Path) : Prop :=
  ∃ failure, setting.source.readLines path = .error failure ∧ failure.isMissing = true

/-- The setting with other files. -/
def Setting.withSource (setting : Setting) (source : Source) : Setting := { setting with source }

/-- The second list is the first one without some lines, each of which asks for a template that does
not exist. -/
inductive Omits (setting : Setting) (dir : Path) : List Text → List Text → Prop
  | done : Omits setting dir [] []
  | keep {lines fewer : List Text} (line : Text) (rest : Omits setting dir lines fewer) :
      Omits setting dir (line :: lines) (line :: fewer)
  | skip {lines fewer : List Text} {line name : Text}
      (asked : (Line.ofSource line).template? = some name)
      (lacks : setting.Lacks (setting.config.templatePath dir name))
      (rest : Omits setting dir lines fewer) : Omits setting dir (line :: lines) fewer

/-- Lines are omitted from files.  The same files exist, and what cannot be read for whatever reason
still cannot. -/
structure OmitsInFiles (setting : Setting) (slim : Source) : Prop where
  file : ∀ path file, Path.normalize path = path → setting.source.readLines path = .ok file →
    ∃ fewer, slim.readLines path = .ok fewer ∧ Omits setting (Setting.dirOf path) file fewer
  failure : ∀ path failure, setting.source.readLines path = .error failure →
    slim.readLines path = .error failure

/-- The error of the lines, and the error of the lines that are left: the same line is at fault, and
the error has its place among either.  An error of a template moves with the lines of the
template. -/
inductive Moved (setting : Setting) (slim : Source) :
    Path → List Text → List Text → ParseError → ParseError → Prop
  | line {dir : Path} {before left after right : List Text} (line : Text) (fault : LineFault)
      (above : Omits setting dir before left) (below : Omits setting dir after right) :
      Moved setting slim dir (before ++ line :: after) (left ++ line :: right)
        (.line (before.length + 1) (lineSpan before line) fault)
        (.line (left.length + 1) (lineSpan left line) fault)
  | inTemplate {dir : Path} {lines fewer : List Text} {path : Path} {file rest : List Text}
      {inner moved : ParseError} (read : setting.source.readLines path = .ok file)
      (reread : slim.readLines path = .ok rest)
      (within : Moved setting slim (Setting.dirOf path) file rest inner moved) :
      Moved setting slim dir lines fewer (.inTemplate path inner) (.inTemplate path moved)
  | cyclic {dir : Path} {lines fewer : List Text} (chain : List Path) :
      Moved setting slim dir lines fewer (.cyclic chain) (.cyclic chain)
  | tooDeep {dir : Path} {lines fewer : List Text} (path : Path) (limit : Nat) :
      Moved setting slim dir lines fewer (.tooDeep path limit) (.tooDeep path limit)
  | unreadable {dir : Path} {lines fewer : List Text} (path : Path) (failure : ReadFailure) :
      Moved setting slim dir lines fewer (.unreadable path failure) (.unreadable path failure)

/-- The error of the lines is about a line that is omitted: its template is one too many, though it
does not even exist. -/
inductive Blocked (setting : Setting) (slim : Source) :
    Path → List Text → List Text → ParseError → Prop
  | here {dir : Path} {before left after right : List Text} {line name : Text}
      (asked : (Line.ofSource line).template? = some name)
      (lacks : setting.Lacks (setting.config.templatePath dir name))
      (above : Omits setting dir before left) (below : Omits setting dir after right) :
      Blocked setting slim dir (before ++ line :: after) (left ++ right)
        (.tooDeep (setting.config.templatePath dir name) setting.config.maxDepth)
  | inTemplate {dir : Path} {lines fewer : List Text} {path : Path} {file rest : List Text}
      {inner : ParseError} (read : setting.source.readLines path = .ok file)
      (reread : slim.readLines path = .ok rest)
      (within : Blocked setting slim (Setting.dirOf path) file rest inner) :
      Blocked setting slim dir lines fewer (.inTemplate path inner)

/-- The outcome of the lines, and the outcome of the lines that are left: the same value, or the
same error at its place, unless the lines are blocked. -/
inductive SameUnlessBlocked (setting : Setting) (slim : Source) (dir : Path)
    (lines fewer : List Text) {α : Type} : Except ParseError α → Except ParseError α → Prop
  | ok (value : α) : SameUnlessBlocked setting slim dir lines fewer (.ok value) (.ok value)
  | error {error moved : ParseError} (h : Moved setting slim dir lines fewer error moved) :
      SameUnlessBlocked setting slim dir lines fewer (.error error) (.error moved)
  | blocked {error : ParseError} (h : Blocked setting slim dir lines fewer error)
      (other : Except ParseError α) :
      SameUnlessBlocked setting slim dir lines fewer (.error error) other

namespace Omits

variable {setting : Setting} {dir : Path} {lines fewer : List Text}

theorem refl (setting : Setting) (dir : Path) (lines : List Text) :
    Omits setting dir lines lines := by
  induction lines with
  | nil => exact .done
  | cons line rest ih => exact .keep line ih

theorem subset (h : Omits setting dir lines fewer) : fewer ⊆ lines := by
  induction h with
  | done => exact List.Subset.refl _
  | keep line _ ih => exact List.cons_subset_cons line ih
  | skip _ _ _ ih => exact List.subset_cons_of_subset _ ih

/-- What becomes of a line and of those before it. -/
theorem exists_left {before after : List Text} {line : Text}
    (h : Omits setting dir (before ++ line :: after) fewer) :
    ∃ left, Omits setting dir before left ∧
      ∃ right, Omits setting dir after right ∧
        (fewer = left ++ line :: right ∨
          fewer = left ++ right ∧ ∃ name, (Line.ofSource line).template? = some name ∧
            setting.Lacks (setting.config.templatePath dir name)) := by
  induction before generalizing fewer with
  | nil =>
    cases h with
    | keep _ rest => exact ⟨[], .done, _, rest, .inl rfl⟩
    | skip asked lacks rest => exact ⟨[], .done, _, rest, .inr ⟨rfl, _, asked, lacks⟩⟩
  | cons first before ih =>
    cases h with
    | keep _ rest =>
      obtain ⟨left, hleft, right, hright, rfl | ⟨rfl, hgone⟩⟩ := ih rest
      · exact ⟨first :: left, .keep first hleft, right, hright, .inl rfl⟩
      · exact ⟨first :: left, .keep first hleft, right, hright, .inr ⟨rfl, hgone⟩⟩
    | skip asked lacks rest =>
      obtain ⟨left, hleft, hline⟩ := ih rest
      exact ⟨left, .skip asked lacks hleft, hline⟩

end Omits

/-! ## One document -/

section

variable {setting : Setting} {slim : Source} {dir : Path} {lines fewer : List Text}
variable {load fetch : Text → Run ParseError (Option Template)} {kind : DocumentKind} {now : Text}

theorem Draft.apply_fill_empty (draft : Draft) : draft.apply (.fill {}) = draft := by
  have hfill := Attributes.fillFrom_empty draft.blueprint.embed.attributes
  rw [apply, mapAttributes, mapEmbed, hfill]

/-- A line makes the same edit if the template that it asks for is still the same. -/
theorem Makes.of_load {line : Text} {edit : Edit} (h : Makes load kind now line edit)
    (hload : ∀ name template, (Line.ofSource line).template? = some name →
      (load name).result = .ok template → (fetch name).result = .ok template) :
    Makes fetch kind now line edit := by
  cases htemplate : (Line.ofSource line).template? with
  | none =>
    rw [makes_iff_of_template?_eq_none htemplate] at h ⊢
    exact h
  | some name =>
    rw [makes_iff_of_template?_eq_some htemplate] at h ⊢
    obtain ⟨template, hresult, hedit⟩ := h
    exact ⟨template, hload name template htemplate hresult, hedit⟩

/-- Lines that are omitted make no difference to what the edits come to. -/
theorem Omits.exists_edits (h : Omits setting dir lines fewer)
    (hmissing : ∀ name template, setting.Lacks (setting.config.templatePath dir name) →
      (load name).result = .ok template → template = none)
    (hload : ∀ name template, (load name).result = .ok template →
      (fetch name).result = .ok template)
    {edits : List Edit} (hedits : List.Forall₂ (Makes load kind now) lines edits) :
    ∃ others, List.Forall₂ (Makes fetch kind now) fewer others ∧
      ∀ draft : Draft, others.foldl Draft.apply draft = edits.foldl Draft.apply draft := by
  induction h generalizing edits with
  | done =>
    cases hedits
    exact ⟨[], .nil, fun _ ↦ rfl⟩
  | keep line _ ih =>
    cases hedits with
    | cons hfirst hrest =>
      obtain ⟨others, hothers, hsame⟩ := ih hrest
      have hkept := hfirst.of_load fun name template _ ↦ hload name template
      exact ⟨_, .cons hkept hothers, fun draft ↦ hsame _⟩
  | skip asked lacks _ ih =>
    cases hedits with
    | cons hfirst hrest =>
      obtain ⟨others, hothers, hsame⟩ := ih hrest
      obtain ⟨template, hresult, rfl⟩ := (makes_iff_of_template?_eq_some asked).mp hfirst
      have hnone := hmissing _ template lacks hresult
      subst hnone
      refine ⟨others, hothers, fun draft ↦ ?_⟩
      rw [hsame, List.foldl_cons, Option.map_none, Option.getD_none, Draft.apply_fill_empty]

/-- **One level**: if the templates that exist are loaded as before, and loading one that does not
exist gives nothing or is blocked, then the document is the same, or fails as before. -/
theorem sameUnlessBlocked_documentOfLines (h : Omits setting dir lines fewer)
    (hmissing : ∀ name, setting.Lacks (setting.config.templatePath dir name) →
      (load name).result = .ok none ∨ (load name).result =
        .error (.tooDeep (setting.config.templatePath dir name) setting.config.maxDepth))
    (hload : ∀ name, SameUnlessBlocked setting slim dir lines fewer (load name).result
      (fetch name).result) :
    SameUnlessBlocked setting slim dir lines fewer (documentOfLines load kind now lines).result
      (documentOfLines fetch kind now fewer).result := by
  have hloaded (name : Text) (template : Option Template)
      (hok : (load name).result = .ok template) : (fetch name).result = .ok template := by
    have hname := hload name
    rw [hok] at hname
    generalize (fetch name).result = outcome at hname ⊢
    cases hname
    rfl
  have hnothing (name : Text) (template : Option Template)
      (lacks : setting.Lacks (setting.config.templatePath dir name))
      (hok : (load name).result = .ok template) : template = none := by
    rcases hmissing name lacks with hnone | herror
    · rw [hok] at hnone
      exact Except.ok.inj hnone
    · rw [hok] at herror
      cases herror
  cases hresult : (documentOfLines load kind now lines).result with
  | ok document =>
    obtain ⟨edits, hedits, rfl⟩ := documentOfLines_eq_ok_iff.mp hresult
    obtain ⟨others, hothers, hsame⟩ := h.exists_edits hnothing hloaded hedits
    have hslim : (documentOfLines fetch kind now fewer).result =
        .ok (Draft.ofEdits edits).blueprint :=
      documentOfLines_eq_ok_iff.mpr ⟨others, hothers, congrArg _ (hsame {})⟩
    rw [hslim]
    exact .ok _
  | error error =>
    obtain ⟨before, line, after, rfl, hbefore, hline⟩ :=
      documentOfLines_eq_error_iff_exists.mp hresult
    obtain ⟨left, hleft, right, hright, hkept⟩ := h.exists_left
    have hmakes (l : Text) (hl : l ∈ left) : ∃ edit, Makes fetch kind now l edit := by
      obtain ⟨edit, hedit⟩ := hbefore l (hleft.subset hl)
      exact ⟨edit, hedit.of_load fun name template _ ↦ hloaded name template⟩
    rcases lineEdit_eq_error_iff.mp hline with ⟨fault, hfault, rfl⟩ | ⟨name, hname, herror⟩
    · -- a line that is at fault itself asks for no template, so it is not omitted
      obtain rfl | ⟨-, name, hname, -⟩ := hkept
      case inr =>
        rw [template?_eq_none_of_read_eq_error hfault] at hname
        cases hname
      have hslim := documentOfLines_eq_error_iff_exists.mpr ⟨left, line, right, rfl, hmakes,
        lineEdit_eq_error_iff.mpr (.inl ⟨fault, hfault, rfl⟩)⟩
      rw [hslim]
      exact .error (.line line fault hleft hright)
    · obtain rfl | ⟨rfl, other, hother, lacks⟩ := hkept
      · have hfetch := hload name
        rw [herror] at hfetch
        generalize hother : (fetch name).result = outcome at hfetch
        cases hfetch with
        | error hmoved =>
          have hslim := documentOfLines_eq_error_iff_exists.mpr ⟨left, line, right, rfl, hmakes,
            lineEdit_eq_error_iff.mpr (.inr ⟨name, hname, hother⟩)⟩
          rw [hslim]
          exact .error hmoved
        | blocked hblocked => exact .blocked hblocked _
      · obtain rfl := Option.some.inj (hname.symm.trans hother)
        rcases hmissing name lacks with hnone | hlimit
        · rw [herror] at hnone
          cases hnone
        · obtain rfl := Except.error.inj (herror.symm.trans hlimit)
          exact .blocked (.here hname lacks hleft hright) _

end

/-! ## All levels -/

section

variable {setting : Setting} {slim : Source} {room : Nat} {chain : List Path}

/-- A template that does not exist gives nothing, unless it is one too many. -/
theorem loadTemplate_of_lacks (hchain : ∀ path ∈ chain, ¬setting.Lacks path) {dir : Path}
    {name : Text} (lacks : setting.Lacks (setting.config.templatePath dir name)) :
    (loadTemplate setting room chain dir name).result = .ok none ∨
      (loadTemplate setting room chain dir name).result =
        .error (.tooDeep (setting.config.templatePath dir name) setting.config.maxDepth) := by
  have hfresh : setting.config.templatePath dir name ∉ chain := fun hmem ↦ hchain _ hmem lacks
  cases room with
  | zero =>
    rw [loadTemplate_zero rfl hfresh]
    exact .inr rfl
  | succ below =>
    obtain ⟨failure, hread, hmissing⟩ := lacks
    rw [loadTemplate_succ_of_error rfl hfresh hread, hmissing]
    exact .inl rfl

/-- **All levels**: a template is the same when lines are omitted from it and from those below it.
The induction is on the room that is left. -/
theorem sameUnlessBlocked_loadTemplate (h : OmitsInFiles setting slim)
    (hchain : ∀ path ∈ chain, ¬setting.Lacks path) (dir : Path) (name : Text) (home : Path)
    (lines fewer : List Text) :
    SameUnlessBlocked setting slim home lines fewer
      (loadTemplate setting room chain dir name).result
      (loadTemplate (setting.withSource slim) room chain dir name).result := by
  induction room generalizing chain dir name home lines fewer with
  | zero =>
    generalize hpath : setting.config.templatePath dir name = path
    have hslim : (setting.withSource slim).config.templatePath dir name = path := hpath
    by_cases hmem : path ∈ chain
    · rw [loadTemplate_of_mem hpath hmem, loadTemplate_of_mem hslim hmem]
      exact .error (.cyclic _)
    · rw [loadTemplate_zero hpath hmem, loadTemplate_zero hslim hmem]
      exact .error (.tooDeep _ _)
  | succ below ih =>
    have hnormal : Path.normalize (setting.config.templatePath dir name)
        = setting.config.templatePath dir name := Path.normalize_normalize _
    generalize hpath : setting.config.templatePath dir name = path at hnormal
    have hslim : (setting.withSource slim).config.templatePath dir name = path := hpath
    by_cases hmem : path ∈ chain
    · rw [loadTemplate_of_mem hpath hmem, loadTemplate_of_mem hslim hmem]
      exact .error (.cyclic _)
    cases hfile : setting.source.readLines path with
    | error failure =>
      have hsame : (setting.withSource slim).source.readLines path = .error failure :=
        h.failure path failure hfile
      rw [loadTemplate_succ_of_error hpath hmem hfile, loadTemplate_succ_of_error hslim hmem hsame]
      cases failure.isMissing with
      | true => exact .ok none
      | false => exact .error (.unreadable _ _)
    | ok file =>
      obtain ⟨rest, hrest, homits⟩ := h.file path file hnormal hfile
      have hsame : (setting.withSource slim).source.readLines path = .ok rest := hrest
      have hopen : ∀ p ∈ chain ++ [path], ¬setting.Lacks p := by
        refine List.forall_mem_append.mpr ⟨hchain, List.forall_mem_singleton.mpr ?_⟩
        rintro ⟨failure, hfailure, -⟩
        rw [hfile] at hfailure
        cases hfailure
      have hdocument : SameUnlessBlocked setting slim (Setting.dirOf path) file rest
          (setting.templateDocument below chain path file).result
          ((setting.withSource slim).templateDocument below chain path rest).result :=
        sameUnlessBlocked_documentOfLines homits (fun _ lacks ↦ loadTemplate_of_lacks hopen lacks)
          fun name ↦ ih hopen _ name _ _ _
      rw [loadTemplate_succ_of_ok hpath hmem hfile, loadTemplate_succ_of_ok hslim hmem hsame]
      generalize (setting.templateDocument below chain path file).result = outcome at hdocument ⊢
      generalize ((setting.withSource slim).templateDocument below chain path rest).result = other
        at hdocument ⊢
      cases hdocument with
      | ok document => exact .ok _
      | error hmoved => exact .error (.inTemplate hfile hrest hmoved)
      | blocked hblocked => exact .blocked (.inTemplate hfile hrest hblocked) _

end

/-- **Templates that do not exist.**  Omit lines that ask for one, from a document and from the
files that it comes to.  Then the document is the same, and an error is the same at the place of its
line, unless one of the lines that are omitted asks for one template too many. -/
theorem parseLines_without_missing {setting : Setting} {slim : Source}
    (hfiles : OmitsInFiles setting slim) {dir : Path} {lines fewer : List Text}
    (hlines : Omits setting dir lines fewer) (kind : DocumentKind) :
    SameUnlessBlocked setting slim dir lines fewer (setting.parseLines kind dir lines).result
      ((setting.withSource slim).parseLines kind dir fewer).result :=
  sameUnlessBlocked_documentOfLines hlines
    (fun _ lacks ↦ loadTemplate_of_lacks (List.forall_mem_nil _) lacks)
    fun name ↦ sameUnlessBlocked_loadTemplate hfiles (List.forall_mem_nil _) dir name dir lines
      fewer

namespace MemoryFiles

/-- A file is read alike under all spellings of its path. -/
theorem readLines_of_normalize_eq {files : MemoryFiles} {path other : Path} {file : List Text}
    (hpath : Path.normalize other = Path.normalize path)
    (h : files.source.readLines path = .ok file) : files.source.readLines other = .ok file := by
  have hsame : files.get? other = files.get? path := by rw [get?, hpath, get?]
  rw [Source.readLines, source] at h ⊢
  rw [hsame]
  cases hget : files.get? path with
  | some content => rwa [hget] at h
  | none =>
    rw [hget] at h
    cases h

theorem readLines_insert {files : MemoryFiles} {path other : Path} {content : Text} :
    (files.insert path content).source.readLines other =
      if Path.normalize other = Path.normalize path then .ok content.lines
      else files.source.readLines other := by
  rw [Source.readLines, source, get?_insert]
  by_cases hpath : Path.normalize other = Path.normalize path
  · rw [if_pos hpath, if_pos hpath]
    rfl
  · rw [if_neg hpath, if_neg hpath]
    rfl

/-- Lines are omitted from one file. -/
theorem omitsInFiles_insert {setting : Setting} {files : MemoryFiles}
    (hsource : setting.source = files.source) {path : Path} {file : List Text} {content : Text}
    (hread : files.source.readLines path = .ok file)
    (h : Omits setting (Setting.dirOf (Path.normalize path)) file content.lines) :
    OmitsInFiles setting (files.insert path content).source where
  file other lines hnormal hother := by
    rw [hsource] at hother
    rw [readLines_insert]
    split
    · next hpath =>
      have hlines := readLines_of_normalize_eq hpath hread
      obtain rfl := Except.ok.inj (hother.symm.trans hlines)
      exact ⟨_, rfl, by rwa [← hnormal, hpath]⟩
    · exact ⟨lines, hother, .refl _ _ _⟩
  failure other failure hother := by
    rw [hsource] at hother
    rw [readLines_insert, if_neg, hother]
    intro hpath
    rw [readLines_of_normalize_eq hpath hread] at hother
    cases hother

end MemoryFiles

/-- A template that asks for one that does not exist, and then is at fault. -/
def leaky : MemoryFiles := ⟨[("base.template.dem", "%1\n@template gone\n# no".toList)]⟩

/-- The fault of the template is found in its second line once the line before it is omitted. -/
theorem parseLines_without_missing_leaky :
    OmitsInFiles { source := leaky.source } (leaky.insert "base.template.dem" "%1\n# no").source ∧
    Omits { source := leaky.source } "." ["@template gone".toList, "@template base".toList]
      ["@template base".toList] ∧
    SameUnlessBlocked (α := Blueprint) { source := leaky.source }
      (leaky.insert "base.template.dem" "%1\n# no").source "."
      ["@template gone".toList, "@template base".toList] ["@template base".toList]
      (.error (.inTemplate "base.template.dem" (.line 3 ⟨18, 22⟩ (.contentInTemplate "# no"))))
      (.error (.inTemplate "base.template.dem" (.line 2 ⟨3, 7⟩ (.contentInTemplate "# no")))) := by
  have lacks : Setting.Lacks { source := leaky.source } "gone.template.dem" :=
    ⟨.notStored "gone.template.dem", by decide +kernel, rfl⟩
  have hasked : (Line.ofSource "@template gone".toList).template? = some "gone".toList := by
    decide +kernel
  have hfiles : OmitsInFiles { source := leaky.source }
      (leaky.insert "base.template.dem" "%1\n# no").source :=
    MemoryFiles.omitsInFiles_insert rfl
      (by decide +kernel : leaky.source.readLines "base.template.dem"
        = .ok ["%1".toList, "@template gone".toList, "# no".toList])
      (.keep _ (.skip hasked lacks (.keep _ .done)))
  have hlines : Omits { source := leaky.source } "."
      ["@template gone".toList, "@template base".toList] ["@template base".toList] :=
    .skip hasked lacks (.keep _ .done)
  have hresult : (Setting.parseLines { source := leaky.source } .embed "."
        ["@template gone".toList, "@template base".toList]).result
      = .error (.inTemplate "base.template.dem"
          (.line 3 ⟨18, 22⟩ (.contentInTemplate "# no"))) := by
    decide +kernel
  have hmoved : (Setting.parseLines { source :=
        (leaky.insert "base.template.dem" "%1\n# no").source } .embed "."
        ["@template base".toList]).result
      = .error (.inTemplate "base.template.dem" (.line 2 ⟨3, 7⟩ (.contentInTemplate "# no"))) := by
    decide +kernel
  have hsame := parseLines_without_missing hfiles hlines .embed
  rw [hresult, Setting.withSource, hmoved] at hsame
  exact ⟨hfiles, hlines, hsame⟩

/-- A template that may not ask for any other, and asks for one that does not exist. -/
def brim : Setting where
  source := MemoryFiles.source ⟨[("base.template.dem", "@template gone\n%1".toList)]⟩
  config := { maxDepth := 1 }

/-- **A template that does not exist can be fatal.**  At the limit nobody looks whether the template
is there, so the document is rejected.  It is accepted if the line is omitted from the template. -/
theorem tooDeep_of_missing :
    brim.Lacks "gone.template.dem" ∧
    OmitsInFiles brim (MemoryFiles.source ⟨[("base.template.dem", "%1".toList)]⟩) ∧
    (brim.parseLines .embed "." ["@template base".toList, "# T".toList, "body".toList]).result
      = .error (.inTemplate "base.template.dem" (.tooDeep "gone.template.dem" 1)) ∧
    ((brim.withSource (MemoryFiles.source ⟨[("base.template.dem", "%1".toList)]⟩)).parseLines .embed
        "." ["@template base".toList, "# T".toList, "body".toList]).result
      = .ok { embed := {
          title := "T".toList, text := " body".toList, attributes := { color := 0x010101 } } } := by
  have lacks : brim.Lacks "gone.template.dem" :=
    ⟨.notStored "gone.template.dem", by decide +kernel, rfl⟩
  have hasked : (Line.ofSource "@template gone".toList).template? = some "gone".toList := by
    decide +kernel
  refine ⟨lacks, ?_, by decide +kernel, by decide +kernel⟩
  exact MemoryFiles.omitsInFiles_insert rfl
    (by decide +kernel : brim.source.readLines "base.template.dem"
      = .ok ["@template gone".toList, "%1".toList])
    (.skip hasked lacks (.keep _ .done))

end ChatEmbed

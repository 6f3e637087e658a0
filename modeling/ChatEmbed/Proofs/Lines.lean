import ChatEmbed.Parser
import Mathlib.Data.List.Forall2

/-!
# What the lines of a document make

A document is parsed line by line, and no line looks at another one.  This file says so in a form
that can be used without opening the parser again:

* `Line.Asks` lists everything a line can ask for, kind by kind, and `ofLine_eq_ok_iff` says that
  the list is complete.
* `Makes` is the edit that one line makes on its own.
* `lineEdits_eq_ok_iff` and `lineEdits_eq_error_iff` are the run over many lines: it gives an edit
  for every line, or the error of the first line that makes none, with the place of that line.
* `documentOfLines_eq_ok_iff` is the same for the document that the edits build.
-/

set_option autoImplicit false

namespace ChatEmbed

/-! ## A line on its own -/

namespace Line

/-- The line that a parse sees: the source line without its terminator, sorted by kind. -/
def ofSource (line : Text) : Line := classify (Text.chomp line)

/-- The name of the template that a line asks for, if it asks for one. -/
def template? : Line → Option Text
  | .command name argument =>
    if name = "template".toList then some (Text.trim argument) else none
  | _ => none

/-- What a line can ask for in a document of the given kind, the time being `now`.  Content has
no place in a template, and three of the commands do not belong in every document. -/
inductive Asks (kind : DocumentKind) (now : Text) : Line → Directive → Prop
  | blank : Asks kind now (.text []) (.edit .blank)
  | write {text : Text} (visible : text ≠ []) (allowed : kind ≠ .template) :
      Asks kind now (.text text) (.edit (.write text))
  | title {title : Text} (allowed : kind ≠ .template) :
      Asks kind now (.heading title) (.edit (.title title))
  | field {title : Text} (allowed : kind ≠ .template) :
      Asks kind now (.subheading title) (.edit (.field title))
  | set {name argument : Text} {key : Attribute} (known : Attribute.ofCommand? name = some key) :
      Asks kind now (.command name argument) (.edit (.set key argument))
  | color {argument : Text} {value : Nat} (valid : Color.read argument = .ok value) :
      Asks kind now (.command "color".toList argument) (.edit (.color value))
  | colorSign {argument : Text} {value : Nat} (valid : Color.read argument = .ok value) :
      Asks kind now (.color argument) (.edit (.color value))
  | timestamp {argument time : Text} (valid : Timestamp.read now argument = some time) :
      Asks kind now (.timestamp argument) (.edit (.timestamp time))
  | includeTemplate {argument : Text} :
      Asks kind now (.command "template".toList argument) (.includeTemplate (Text.trim argument))
  | image {url : Text} (allowed : kind ≠ .template) :
      Asks kind now (.command "image".toList url) (.edit (.image url))
  | name {symbol : Text} (allowed : kind ≠ .template) :
      Asks kind now (.command "name".toList symbol)
        (.edit (.name (if Text.trim symbol = [] then none else some (Text.trim symbol))))
  | declare {argument : Text} {declaration : Replacement} (allowed : kind = .blueprint)
      (valid : Replacement.read? argument = some declaration) :
      Asks kind now (.command "replace".toList argument) (.edit (.declare declaration))

end Line

theorem content_eq_ok_iff {kind : DocumentKind} {raw : Text} {edit : Edit}
    {directive : Directive} : Directive.content kind raw edit = .ok directive ↔
      kind ≠ .template ∧ directive = .edit edit := by
  rw [Directive.content]
  split <;> simp_all [eq_comm]

theorem allowIf_eq_ok_iff {allowed : Bool} {kind : DocumentKind} {name : Text} {edit : Edit}
    {directive : Directive} : Directive.allowIf allowed kind name edit = .ok directive ↔
      allowed = true ∧ directive = .edit edit := by
  rw [Directive.allowIf]
  split <;> simp_all [eq_comm]

theorem decode_eq_of_known {name argument : Text} {key : Attribute}
    (h : Attribute.ofCommand? name = some key) :
    Command.decode name argument = .ok (.set key argument) := by
  rw [Command.decode, h]

/-- The commands that are understood, with what they ask for. -/
theorem asks_of_ofCommand {kind : DocumentKind} {now name argument : Text} {directive : Directive}
    (h : Directive.ofCommand kind name argument = .ok directive) :
    (Line.command name argument).Asks kind now directive := by
  rw [Directive.ofCommand] at h
  cases hkey : Attribute.ofCommand? name with
  | some key =>
    rw [decode_eq_of_known hkey] at h
    cases h
    exact .set hkey
  | none =>
    rw [Command.decode, hkey] at h
    by_cases hcolor : name = "color".toList
    · subst hcolor
      cases hvalue : Color.read argument with
      | ok value => rw [hvalue] at h; cases h; exact .color hvalue
      | error fault => rw [hvalue] at h; cases h
    by_cases htemplate : name = "template".toList
    · subst htemplate
      cases h
      exact .includeTemplate
    by_cases himage : name = "image".toList
    · subst himage
      obtain ⟨hkind, rfl⟩ := allowIf_eq_ok_iff.mp h
      exact .image (by simpa using hkind)
    by_cases hname : name = "name".toList
    · subst hname
      obtain ⟨hkind, rfl⟩ := allowIf_eq_ok_iff.mp h
      exact .name (by simpa using hkind)
    by_cases hreplace : name = "replace".toList
    · subst hreplace
      cases hread : Replacement.read? argument with
      | none => rw [hread] at h; cases h
      | some declaration =>
        rw [hread] at h
        obtain ⟨hkind, rfl⟩ := allowIf_eq_ok_iff.mp h
        exact .declare (by simpa using hkind) hread
    · dsimp only at h
      rw [if_neg hcolor, if_neg htemplate, if_neg himage, if_neg hname, if_neg hreplace] at h
      cases h

/-- **Everything a line can ask for.**  A line is understood exactly when it is one of the lines
that `Line.Asks` lists, whatever the line was written like. -/
theorem ofLine_eq_ok_iff {kind : DocumentKind} {now raw : Text} {line : Line}
    {directive : Directive} :
    Directive.ofLine kind now raw line = .ok directive ↔ line.Asks kind now directive := by
  constructor
  · intro h
    cases line with
    | heading title =>
      obtain ⟨hkind, rfl⟩ := content_eq_ok_iff.mp h
      exact .title hkind
    | subheading title =>
      obtain ⟨hkind, rfl⟩ := content_eq_ok_iff.mp h
      exact .field hkind
    | command name argument => exact asks_of_ofCommand h
    | color argument =>
      rw [Directive.ofLine] at h
      split at h
      · next value hvalue => cases h; exact .colorSign hvalue
      · cases h
    | timestamp argument =>
      rw [Directive.ofLine] at h
      split at h
      · next time htime => cases h; exact .timestamp htime
      · cases h
    | text content =>
      cases content with
      | nil => cases h; exact .blank
      | cons c rest =>
        obtain ⟨hkind, rfl⟩ := content_eq_ok_iff.mp h
        exact .write (List.cons_ne_nil c rest) hkind
  · intro h
    cases h with
    | blank => rfl
    | @write text visible allowed =>
      cases text with
      | nil => exact absurd rfl visible
      | cons c rest => exact content_eq_ok_iff.mpr ⟨allowed, rfl⟩
    | title allowed => exact content_eq_ok_iff.mpr ⟨allowed, rfl⟩
    | field allowed => exact content_eq_ok_iff.mpr ⟨allowed, rfl⟩
    | set known => rw [Directive.ofLine, Directive.ofCommand, decode_eq_of_known known]
    | @color argument value valid =>
      have hdecode : Command.decode "color".toList argument = .ok (.color value) := by
        rw [Command.decode, show Attribute.ofCommand? "color".toList = none from rfl]
        dsimp only
        rw [if_pos rfl, valid]
      rw [Directive.ofLine, Directive.ofCommand, hdecode]
    | colorSign valid => rw [Directive.ofLine, valid]
    | timestamp valid => rw [Directive.ofLine, valid]
    | includeTemplate => rfl
    | image allowed => exact allowIf_eq_ok_iff.mpr ⟨by simpa using allowed, rfl⟩
    | name allowed => exact allowIf_eq_ok_iff.mpr ⟨by simpa using allowed, rfl⟩
    | @declare argument declaration allowed valid =>
      have hdecode : Command.decode "replace".toList argument = .ok (.replace declaration) := by
        rw [Command.decode, show Attribute.ofCommand? "replace".toList = none from rfl]
        dsimp only
        rw [if_neg (by decide), if_neg (by decide), if_neg (by decide), if_neg (by decide),
          if_pos rfl, valid]
      rw [Directive.ofLine, Directive.ofCommand, hdecode]
      exact allowIf_eq_ok_iff.mpr ⟨by simpa using allowed, rfl⟩

/-- A line asks for one thing only. -/
theorem Line.Asks.unique {kind : DocumentKind} {now : Text} {line : Line}
    {first second : Directive} (hfirst : line.Asks kind now first)
    (hsecond : line.Asks kind now second) : first = second := by
  have hread : Directive.ofLine kind now [] line = .ok first := ofLine_eq_ok_iff.mpr hfirst
  rw [ofLine_eq_ok_iff.mpr hsecond] at hread
  exact (Except.ok.inj hread).symm

/-! ## The lines of a list -/

/-- Of two lists that are related element by element, what is in the one is related to something in
the other. -/
theorem exists_mem_of_forall₂ {α β : Type} {R : α → β → Prop} {l : List α} {others : List β}
    (h : List.Forall₂ R l others) {a : α} (ha : a ∈ l) : ∃ b ∈ others, R a b := by
  induction h with
  | nil => cases ha
  | @cons first other _ _ hfirst _ ih =>
    rcases List.mem_cons.mp ha with rfl | hrest
    · exact ⟨other, List.mem_cons_self, hfirst⟩
    · obtain ⟨b, hb, hab⟩ := ih hrest
      exact ⟨b, List.mem_cons_of_mem other hb, hab⟩

section Lines

variable (load : Text → Run ParseError (Option Template)) (kind : DocumentKind) (now : Text)

/-- The line asks for something, and `edit` is what it comes to once `load` has fetched the template
it may ask for. -/
def Makes (line : Text) (edit : Edit) : Prop :=
  ∃ directive, (Line.ofSource line).Asks kind now directive ∧
    (directive.resolve load).result = .ok edit

/-- The bytes that the lines take up, one more for the end of each. -/
def sourceSize : List Text → Nat
  | [] => 0
  | line :: rest => Text.byteSize (Text.chomp line) + 1 + sourceSize rest

/-- Stepping over a line moves the offset as the parser moves it. -/
theorem add_sourceSize_cons (offset : Nat) (line : Text) (rest : List Text) :
    offset + sourceSize (line :: rest)
      = offset + Text.byteSize (Text.chomp line) + 1 + sourceSize rest := by
  rw [sourceSize]
  omega

variable {load kind now}

theorem lineEdit_eq_ok_iff {number : Nat} {span : Span} {line : Text} {edit : Edit} :
    (lineEdit load kind now number span (Text.chomp line)).result = .ok edit ↔
      Makes load kind now line edit := by
  rw [lineEdit, Directive.read, ← Line.ofSource]
  constructor
  · intro h
    cases hread : Directive.ofLine kind now (Text.chomp line) (Line.ofSource line) with
    | error fault => rw [hread] at h; cases h
    | ok directive =>
      rw [hread] at h
      exact ⟨directive, ofLine_eq_ok_iff.mp hread, h⟩
  · rintro ⟨directive, hasks, hresult⟩
    rw [ofLine_eq_ok_iff.mpr hasks]
    exact hresult

/-- **The run over many lines succeeds line by line.**  Neither the place of a line nor the lines
before it have a say in what it makes. -/
theorem lineEdits_eq_ok_iff {number offset : Nat} {lines : List Text} {edits : List Edit} :
    (lineEdits load kind now number offset lines).result = .ok edits ↔
      List.Forall₂ (Makes load kind now) lines edits := by
  induction lines generalizing number offset edits with
  | nil => simp [lineEdits, eq_comm]
  | cons line rest ih =>
    simp only [lineEdits, Run.result_bind_eq_ok_iff, lineEdit_eq_ok_iff, ih]
    constructor
    · rintro ⟨first, hfirst, others, hothers, hedits⟩
      cases hedits
      exact .cons hfirst hothers
    · intro h
      cases h with
      | cons hfirst hothers => exact ⟨_, hfirst, _, hothers, rfl⟩

/-- **The run over many lines fails at the first line that makes no edit**, with the error of that
line at its place: the number counts the lines before it and the span their bytes. -/
theorem lineEdits_eq_error_iff {number offset : Nat} {lines : List Text} {error : ParseError} :
    (lineEdits load kind now number offset lines).result = .error error ↔
      ∃ before line after, lines = before ++ line :: after ∧
        (∀ l ∈ before, ∃ edit, Makes load kind now l edit) ∧
        (lineEdit load kind now (number + before.length)
          ⟨offset + sourceSize before,
            offset + sourceSize before + Text.byteSize (Text.chomp line)⟩
          (Text.chomp line)).result = .error error := by
  induction lines generalizing number offset with
  | nil => simp [lineEdits]
  | cons line rest ih =>
    simp only [lineEdits, Run.result_bind_eq_error_iff, lineEdit_eq_ok_iff, ih]
    constructor
    · rintro (hline | ⟨first, hfirst, ⟨before, bad, after, rfl, hbefore, hbad⟩ | ⟨_, _, h⟩⟩)
      · exact ⟨[], line, rest, rfl, by simp, by simpa [sourceSize] using hline⟩
      · refine ⟨line :: before, bad, after, rfl, ?_, ?_⟩
        · exact List.forall_mem_cons.mpr ⟨⟨first, hfirst⟩, hbefore⟩
        · rw [add_sourceSize_cons, List.length_cons, Nat.add_comm before.length,
            ← Nat.add_assoc]
          exact hbad
      · cases h
    · rintro ⟨before, bad, after, hlines, hbefore, hbad⟩
      cases before with
      | nil =>
        obtain ⟨rfl, rfl⟩ := List.cons.inj hlines
        exact .inl (by simpa [sourceSize] using hbad)
      | cons head before =>
        obtain ⟨rfl, rfl⟩ := List.cons.inj hlines
        obtain ⟨⟨first, hfirst⟩, hbefore⟩ := List.forall_mem_cons.mp hbefore
        refine .inr ⟨first, hfirst, .inl ⟨before, bad, after, rfl, hbefore, ?_⟩⟩
        rw [add_sourceSize_cons, List.length_cons, Nat.add_comm before.length,
          ← Nat.add_assoc] at hbad
        exact hbad

/-! ## The document that the lines make -/

/-- A document is the edits of its lines, applied in order. -/
theorem documentOfLines_eq_ok_iff {lines : List Text} {document : Blueprint} :
    (documentOfLines load kind now lines).result = .ok document ↔
      ∃ edits, List.Forall₂ (Makes load kind now) lines edits ∧
        (Draft.ofEdits edits).blueprint = document := by
  simp [documentOfLines, Run.result_bind_eq_ok_iff, lineEdits_eq_ok_iff]

theorem documentOfLines_eq_error_iff {lines : List Text} {error : ParseError} :
    (documentOfLines load kind now lines).result = .error error ↔
      (lineEdits load kind now 1 0 lines).result = .error error := by
  simp [documentOfLines, Run.result_bind_eq_error_iff]

/-- **Induction along the lines of a document.**  What holds of no lines and an empty draft, and is
kept by every line with the edit it makes, holds of all lines and the draft they build. -/
theorem ofEdits_induction {motive : List Text → Draft → Prop} (start : motive [] {})
    (step : ∀ lines draft line edit, motive lines draft → Makes load kind now line edit →
      motive (lines ++ [line]) (draft.apply edit))
    {lines : List Text} {edits : List Edit} (h : List.Forall₂ (Makes load kind now) lines edits) :
    motive lines (Draft.ofEdits edits) := by
  -- the lines read so far and the draft they built are kept in view
  have hfrom : ∀ before draft, motive before draft →
      motive (before ++ lines) (edits.foldl Draft.apply draft) := by
    induction h with
    | nil =>
      intro before draft hbefore
      rwa [List.append_nil]
    | @cons line edit rest others hline _ ih =>
      intro before draft hbefore
      rw [List.append_cons]
      exact ih _ _ (step before draft line edit hbefore hline)
  exact hfrom [] {} start

/-- A document is accepted exactly when each of its lines is. -/
theorem exists_documentOfLines_iff {lines : List Text} :
    (∃ document, (documentOfLines load kind now lines).result = .ok document) ↔
      ∀ line ∈ lines, ∃ edit, Makes load kind now line edit := by
  simp only [documentOfLines_eq_ok_iff]
  constructor
  · rintro ⟨_, edits, hedits, -⟩ line hline
    obtain ⟨edit, -, hedit⟩ := exists_mem_of_forall₂ hedits hline
    exact ⟨edit, hedit⟩
  · intro h
    have : Nonempty Edit := ⟨.blank⟩
    choose! make hmake using h
    refine ⟨_, lines.map make, ?_, rfl⟩
    rw [List.forall₂_map_right_iff, List.forall₂_same]
    exact hmake

end Lines

/-! ## Lines that ask for a template, and the others -/

theorem Line.template?_eq_some_iff {line : Line} {name : Text} :
    line.template? = some name ↔
      ∃ argument, line = .command "template".toList argument ∧ Text.trim argument = name := by
  cases line with
  | command given argument =>
    rw [template?]
    split
    · next h =>
      subst h
      exact ⟨fun hname => ⟨argument, rfl, Option.some.inj hname⟩,
        by rintro ⟨_, hline, rfl⟩; cases hline; rfl⟩
    · next h =>
      exact ⟨by rintro ⟨⟩, by rintro ⟨_, hline, -⟩; cases hline; exact absurd rfl h⟩
  | _ => simp [template?]

/-- The name of the template that a directive is about, if it is an inclusion. -/
def Directive.template? : Directive → Option Text
  | .edit _ => none
  | .includeTemplate name => some name

theorem Line.Asks.template?_eq {kind : DocumentKind} {now : Text} {line : Line}
    {directive : Directive} (h : line.Asks kind now directive) :
    line.template? = directive.template? := by
  cases h with
  | @set name argument key known =>
    have hne : name ≠ "template".toList := by
      rintro rfl
      cases known
    exact if_neg hne
  | _ => rfl

section Templates

variable {load : Text → Run ParseError (Option Template)} {kind : DocumentKind} {now : Text}
variable {line : Text}

/-- A line that asks for no template makes the same edit whatever the templates are. -/
theorem makes_iff_of_template?_eq_none {edit : Edit}
    (h : (Line.ofSource line).template? = none) :
    Makes load kind now line edit ↔ (Line.ofSource line).Asks kind now (.edit edit) := by
  constructor
  · rintro ⟨directive, hasks, hresult⟩
    cases directive with
    | edit made => cases hresult; exact hasks
    | includeTemplate name =>
      rw [hasks.template?_eq] at h
      cases h
  · intro hasks
    exact ⟨_, hasks, rfl⟩

/-- A line that asks for a template fills in what the template supplies. -/
theorem makes_iff_of_template?_eq_some {edit : Edit} {name : Text}
    (h : (Line.ofSource line).template? = some name) :
    Makes load kind now line edit ↔ ∃ template, (load name).result = .ok template ∧
      .fill ((template.map Template.attributes).getD {}) = edit := by
  have hresolve : ((Directive.includeTemplate name).resolve load).result = .ok edit ↔
      ∃ template, (load name).result = .ok template ∧
        .fill ((template.map Template.attributes).getD {}) = edit := by
    simp only [Directive.resolve, Run.result_bind_eq_ok_iff, Run.pure_eq, Except.ok.injEq]
  rw [← hresolve]
  constructor
  · rintro ⟨directive, hasks, hresult⟩
    cases directive with
    | edit made => rw [hasks.template?_eq] at h; cases h
    | includeTemplate other =>
      rw [hasks.template?_eq] at h
      cases h
      exact hresult
  · intro hresult
    obtain ⟨argument, hline, rfl⟩ := Line.template?_eq_some_iff.mp h
    exact ⟨_, hline ▸ .includeTemplate, hresult⟩

/-- A line that is at fault asks for no template, since nothing can be wrong with a line that
does. -/
theorem template?_eq_none_of_read_eq_error {fault : LineFault}
    (h : Directive.read kind now (Text.chomp line) = .error fault) :
    (Line.ofSource line).template? = none := by
  refine Option.eq_none_iff_forall_ne_some.mpr fun name hname ↦ ?_
  obtain ⟨argument, hline, -⟩ := Line.template?_eq_some_iff.mp hname
  rw [Directive.read, ← Line.ofSource, hline] at h
  cases h

/-- The two ways in which a line fails: it is at fault itself, which is told with its place, or the
template that it asks for cannot be loaded. -/
theorem lineEdit_eq_error_iff {number : Nat} {span : Span} {error : ParseError} :
    (lineEdit load kind now number span (Text.chomp line)).result = .error error ↔
      (∃ fault, Directive.read kind now (Text.chomp line) = .error fault ∧
        .line number span fault = error) ∨
      ∃ name, (Line.ofSource line).template? = some name ∧ (load name).result = .error error := by
  rw [lineEdit]
  cases hread : Directive.read kind now (Text.chomp line) with
  | error fault =>
    simp [Run.fail, template?_eq_none_of_read_eq_error hread]
  | ok directive =>
    have hasks : (Line.ofSource line).Asks kind now directive := ofLine_eq_ok_iff.mp hread
    cases directive with
    | edit made => simp [Directive.resolve, hasks.template?_eq, Directive.template?]
    | includeTemplate name =>
      simp [Directive.resolve, Run.result_bind_eq_error_iff, hasks.template?_eq,
        Directive.template?]

end Templates

/-! ## Runs that are alike -/

/-- A relation between runs that two runs in a row inherit from their parts. -/
structure Run.Congruence (R : (α : Type) → Run ParseError α → Run ParseError α → Prop) : Prop where
  ofExcept : ∀ {α : Type} (result : Except ParseError α), R α (.ofExcept result) (.ofExcept result)
  bind : ∀ {α β : Type} {run other : Run ParseError α} {next onward : α → Run ParseError β},
    R α run other → (∀ value, R β (next value) (onward value)) →
    R β (run >>= next) (other >>= onward)

namespace Run.Congruence

variable {R : (α : Type) → Run ParseError α → Run ParseError α → Prop} (hR : Run.Congruence R)
variable {load fetch : Text → Run ParseError (Option Template)} {kind : DocumentKind} {now : Text}
include hR

theorem ok {α : Type} (value : α) : R α (pure value) (pure value) :=
  hR.ofExcept (.ok value)

/-- A line inherits from the template that it asks for, if it asks for one. -/
theorem lineEdit {line : Text} (h : ∀ name, (Line.ofSource line).template? = some name →
    R _ (load name) (fetch name)) (number : Nat) (span : Span) :
    R _ (lineEdit load kind now number span (Text.chomp line))
      (lineEdit fetch kind now number span (Text.chomp line)) := by
  rw [ChatEmbed.lineEdit, ChatEmbed.lineEdit]
  cases hread : Directive.read kind now (Text.chomp line) with
  | error fault => exact hR.ofExcept (.error _)
  | ok directive =>
    have hasks : (Line.ofSource line).Asks kind now directive := ofLine_eq_ok_iff.mp hread
    cases directive with
    | edit made => exact hR.ok made
    | includeTemplate name => exact hR.bind (h name hasks.template?_eq) fun _ ↦ hR.ok _

theorem lineEdits {lines : List Text} (h : ∀ line ∈ lines, ∀ name,
    (Line.ofSource line).template? = some name → R _ (load name) (fetch name))
    (number offset : Nat) :
    R _ (lineEdits load kind now number offset lines)
      (lineEdits fetch kind now number offset lines) := by
  induction lines generalizing number offset with
  | nil => exact hR.ok []
  | cons line rest ih =>
    obtain ⟨hline, hrest⟩ := List.forall_mem_cons.mp h
    exact hR.bind (hR.lineEdit hline ..) fun _ ↦ hR.bind (ih hrest ..) fun _ ↦ hR.ok _

/-- **A document inherits from the templates that it asks for** whatever runs in a row inherit. -/
theorem documentOfLines_of_asked (load fetch : Text → Run ParseError (Option Template))
    (kind : DocumentKind) (now : Text) {lines : List Text}
    (h : ∀ line ∈ lines, ∀ name, (Line.ofSource line).template? = some name →
      R _ (load name) (fetch name)) :
    R _ (documentOfLines load kind now lines) (documentOfLines fetch kind now lines) :=
  hR.bind (hR.lineEdits h 1 0) fun _ ↦ hR.ok _

theorem documentOfLines (load fetch : Text → Run ParseError (Option Template))
    (h : ∀ name, R _ (load name) (fetch name)) (kind : DocumentKind) (now : Text)
    (lines : List Text) :
    R _ (documentOfLines load kind now lines) (documentOfLines fetch kind now lines) :=
  hR.documentOfLines_of_asked load fetch kind now fun _ _ name _ ↦ h name

end Run.Congruence

/-- **Equal runs from equal parts.**  Let `P` be something that the parts of a run have if the run
has it.  Then runs that are equal as soon as the first of them has it are a congruence. -/
theorem Run.congruence_of_parts {P : (α : Type) → Run ParseError α → Prop}
    (hfirst : ∀ {α β : Type} {run : Run ParseError α} {next : α → Run ParseError β},
      P β (run >>= next) → P α run)
    (hnext : ∀ {α β : Type} {run : Run ParseError α} {next : α → Run ParseError β} {value : α},
      run.result = .ok value → P β (run >>= next) → P β (next value)) :
    Run.Congruence fun α run other ↦ P α run → other = run where
  ofExcept _ _ := rfl
  bind {_ _ run other next onward} hrun hvalues h := by
    rw [hrun (hfirst h)]
    have hvalue := fun value hresult ↦ hvalues value (hnext hresult h)
    obtain ⟨events, error | value⟩ := run
    · rfl
    · rw [Run.bind_ok, Run.bind_ok, hvalue value rfl]

/-! ## Content and everything else -/

/-- Whether a line is content: text, or the title of the embed or of a field.  All other lines are
directives. -/
def Line.isContent : Line → Bool
  | .heading _ | .subheading _ | .text _ => true
  | .command _ _ | .color _ | .timestamp _ => false

/-- Whether an edit is one that a line of content makes. -/
def Edit.isContent : Edit → Bool
  | .blank | .write _ | .title _ | .field _ => true
  | _ => false

theorem Makes.isContent_eq {load : Text → Run ParseError (Option Template)} {kind : DocumentKind}
    {now line : Text} {edit : Edit} (h : Makes load kind now line edit) :
    edit.isContent = (Line.ofSource line).isContent := by
  cases htemplate : (Line.ofSource line).template? with
  | none =>
    have hasks := (makes_iff_of_template?_eq_none htemplate).mp h
    generalize Line.ofSource line = l at hasks
    cases hasks <;> rfl
  | some name =>
    obtain ⟨template, -, rfl⟩ := (makes_iff_of_template?_eq_some htemplate).mp h
    obtain ⟨argument, hline, -⟩ := Line.template?_eq_some_iff.mp htemplate
    rw [hline]
    rfl

end ChatEmbed

import ChatEmbed.Proofs.Attributes
import ChatEmbed.Proofs.Content

/-!
# Parsing in one pass

The parser finds out what every line asks for, and only then builds a document from the edits.  One
can also keep a single draft and change it line by line.  Whether a line is rejected, and which field
gets its text, could then depend on what the lines before it have left behind, and the field could be
one that is not there.  This file is about such an engine.

* `Engine` is an action on a draft that is changed in place.  It stops with an error of the parser,
  or because the active field is missing.
* `Engine.parse` is one pass over the lines of a document, and `parse_eq` says that it comes to what
  the parser does.  So the active field is never missing.
* `Carries` is what is shown of a single line: the engine does what the line asks for, whatever the
  draft is, as long as its active field is the last one (`Draft.TargetsLast`).
* `lines_alike` says that nothing in a draft has a say in which line fails, or how.
-/

set_option autoImplicit false

namespace ChatEmbed

/-! ## The engine -/

namespace Engine

/-- Why an engine stops before the last line. -/
inductive Stop
  | error (error : ParseError)
  /-- Text goes to a field that is not there. -/
  | missingField (index : Nat)
deriving DecidableEq, Repr

end Engine

/-- An action on the draft that an engine keeps. -/
abbrev Engine (α : Type) := StateT Draft (Run Engine.Stop) α

namespace Engine

/-- The place of the line that is being processed. -/
structure Position where
  number : Nat
  span : Span

/-- What happens outside, with an error of its own. -/
def await {α : Type} (run : Run ParseError α) : Engine α :=
  StateT.lift (run.mapError .error)

/-- The line is at fault. -/
def failAt {α : Type} (place : Position) (fault : LineFault) : Engine α :=
  await (Run.fail (.line place.number place.span fault))

/-- Text goes to the end of what the last heading opened. -/
def push (added : Text) : Engine Unit := do
  let draft ← get
  match draft.target with
  | .nowhere => pure ()
  | .body => modify (Draft.mapEmbed fun embed => { embed with text := embed.text ++ added })
  | .field index =>
    match draft.blueprint.embed.fields[index]? with
    | none => StateT.lift (Run.fail (.missingField index))
    | some field =>
      modify (Draft.mapEmbed fun embed =>
        { embed with fields := embed.fields.set index (field.append added) })

/-- The placeholders with a new default for the one that has the token, or with one more at the
end. -/
def declareIn (replacements : List Replacement) (declaration : Replacement) : List Replacement :=
  match replacements.findIdx? (·.token = declaration.token) with
  | some index => replacements.modify index ({ · with default? := declaration.default? })
  | none => replacements ++ [declaration]

section

variable (kind : DocumentKind) (place : Position)

/-- A template has no content. -/
def rejectInTemplate (raw : Text) : Engine Unit :=
  if kind = .template then failAt place (.contentInTemplate (Text.trim raw)) else pure ()

/-- Some commands are not for every kind of document. -/
def allow (name : Text) (allowed : Bool) : Engine Unit :=
  if allowed then pure () else failAt place (.notAllowed name kind)

/-- A text line.  An empty one is only remembered. -/
def text (raw content : Text) : Engine Unit := do
  if content.isEmpty then
    modify ({ · with afterBlank := true })
  else
    rejectInTemplate kind place raw
    let separator := (← get).separator
    modify ({ · with afterBlank := false })
    push (separator :: content)

variable (load : Text → Run ParseError (Option Template))

/-- A command. -/
def command (name argument : Text) : Engine Unit := do
  match Command.decode name argument with
  | .error .unknown => failAt place (.unknownCommand name)
  | .error (.color fault) => failAt place (.invalidColor argument fault)
  | .error .replacement => failAt place (.invalidReplacement argument)
  | .ok (.set key value) => modify (Draft.mapAttributes (·.set key value))
  | .ok (.color value) => modify (Draft.mapAttributes ({ · with color := value }))
  | .ok (.includeTemplate template) =>
    if let some template ← await (load template) then
      modify (Draft.mapAttributes (·.fillFrom template.attributes))
  | .ok (.image url) =>
    allow kind place name (kind ≠ .template)
    modify (Draft.mapEmbed ({ · with image := url }))
  | .ok (.name symbol) =>
    allow kind place name (kind ≠ .template)
    modify (Draft.mapEmbed ({ · with name := if symbol = [] then none else some symbol }))
  | .ok (.replace declaration) =>
    allow kind place name (kind = .blueprint)
    modify fun draft => { draft with blueprint := { draft.blueprint with
      replacements := declareIn draft.blueprint.replacements declaration } }

variable (now : Text)

/-- A line without its terminator. -/
def line (raw : Text) : Engine Unit := do
  match Line.classify raw with
  | .text content => text kind place raw content
  | .heading title =>
    rejectInTemplate kind place raw
    modify (Draft.mapEmbed ({ · with title }))
    modify ({ · with target := .body })
  | .subheading title =>
    rejectInTemplate kind place raw
    modify (Draft.mapEmbed fun embed => { embed with fields := embed.fields ++ [{ title }] })
    modify fun draft =>
      { draft with target := .field (draft.blueprint.embed.fields.length - 1) }
  | .command name argument => command kind place load name argument
  | .color argument =>
    match Color.read argument with
    | .ok value => modify (Draft.mapAttributes ({ · with color := value }))
    | .error fault => failAt place (.invalidColor argument fault)
  | .timestamp argument =>
    match Timestamp.read now argument with
    | some time => modify (Draft.mapAttributes ({ · with timestamp := time }))
    | none => failAt place (.invalidTimestamp argument)

end

/-- The lines one after the other, the first one having the given number and offset. -/
def lines (load : Text → Run ParseError (Option Template)) (kind : DocumentKind) (now : Text) :
    Nat → Nat → List Text → Engine Unit
  | _, _, [] => pure ()
  | number, offset, first :: rest => do
    let raw := Text.chomp first
    let stop := offset + Text.byteSize raw
    line kind ⟨number, ⟨offset, stop⟩⟩ load now raw
    lines load kind now (number + 1) (stop + 1) rest

/-- The document that one pass over the lines makes. -/
def parse (load : Text → Run ParseError (Option Template)) (kind : DocumentKind) (now : Text)
    (source : List Text) : Run Stop Blueprint := do
  let (_, draft) ← (lines load kind now 1 0 source).run {}
  return draft.blueprint

end Engine

/-! ## The active field -/

/-- If text goes to a field, it is the last one. -/
def Draft.TargetsLast (draft : Draft) : Prop :=
  ∀ index, draft.target = .field index → index + 1 = draft.blueprint.embed.fields.length

/-- **Every edit keeps the active field the last one.** -/
theorem Draft.TargetsLast.apply {draft : Draft} (h : draft.TargetsLast) (edit : Edit) :
    (draft.apply edit).TargetsLast := by
  cases edit with
  | title title => exact fun _ htarget ↦ by cases htarget
  | field title =>
    intro index htarget
    cases htarget
    simp [Draft.apply, Draft.mapEmbed]
  | write text =>
    intro index htarget
    refine (h index htarget).trans ?_
    exact (congrArg List.length (fields_appendText ..)).trans List.length_mapIdx |>.symm
  | _ => exact h

namespace Engine

/-! ## Small actions -/

theorem mapError_ok {ε ε' α : Type} (f : ε → ε') (events : List Event) (value : α) :
    (⟨events, .ok value⟩ : Run ε α).mapError f = ⟨events, .ok value⟩ :=
  rfl

theorem mapError_error {ε ε' α : Type} (f : ε → ε') (events : List Event) (error : ε) :
    (⟨events, .error error⟩ : Run ε α).mapError f = ⟨events, .error (f error)⟩ :=
  rfl

theorem run_await {α : Type} (run : Run ParseError α) (draft : Draft) :
    (await run).run draft = run.mapError .error >>= fun value ↦ pure (value, draft) :=
  StateT.run_lift ..

/-- A field replaced by the same with text at its end. -/
theorem set_append_eq {fields : List Field} {index : Nat} {field : Field}
    (h : fields[index]? = some field) (added : Text) :
    fields.set index (field.append added) = fields.modify index (Field.append added) := by
  rw [List.modify_eq_set_getElem?, h]
  rfl

/-- Text reaches the part that the last heading opened. -/
theorem run_push {draft : Draft} (h : draft.TargetsLast) (added : Text) :
    (push added).run draft =
      pure ((), draft.mapEmbed (Draft.appendText draft.target added)) := by
  obtain ⟨blueprint, target, afterBlank⟩ := draft
  cases target with
  | nowhere => rfl
  | body => rfl
  | field index =>
    have hindex : index < blueprint.embed.fields.length := by
      rw [← h index rfl]
      exact Nat.lt_succ_self index
    have hfield := List.getElem?_eq_getElem hindex
    simp [push, hfield, Draft.mapEmbed, Draft.appendText, set_append_eq hfield]

/-- A placeholder is declared again in place, or once more at the end. -/
theorem declareIn_eq (replacements : List Replacement) (declaration : Replacement) :
    declareIn replacements declaration = declaration.declare replacements := by
  induction replacements with
  | nil => rfl
  | cons first rest ih =>
    rw [declareIn, List.findIdx?_cons, Replacement.declare]
    rw [declareIn] at ih
    by_cases htoken : first.token = declaration.token
    · simp [htoken, List.modify_cons]
    · rw [if_neg htoken, ← ih]
      cases rest.findIdx? (·.token = declaration.token) <;> simp [htoken]

/-! ## One line -/

/-- The edit that a line comes to, given what it asks for. -/
def outcome (place : Position) (load : Text → Run ParseError (Option Template)) :
    Except LineFault Directive → Run ParseError Edit
  | .ok directive => directive.resolve load
  | .error fault => Run.fail (.line place.number place.span fault)

/-- The action does what is asked for, whatever the draft is: it fails in the same way, and else it
leaves the draft with the edit made. -/
def Carries (place : Position) (load : Text → Run ParseError (Option Template))
    (action : Engine Unit) (asked : Except LineFault Directive) : Prop :=
  ∀ draft : Draft, draft.TargetsLast → action.run draft =
    (outcome place load asked).mapError .error >>= fun edit ↦ pure ((), draft.apply edit)

section

variable {kind : DocumentKind} {place : Position}
variable {load : Text → Run ParseError (Option Template)} {now : Text}

theorem carries_failAt (fault : LineFault) :
    Carries place load (failAt place fault) (.error fault) :=
  fun _ _ ↦ rfl

theorem carries_modify {change : Draft → Draft} {edit : Edit}
    (h : ∀ draft : Draft, change draft = draft.apply edit) :
    Carries place load (modify change) (.ok (.edit edit)) := by
  intro draft _
  rw [StateT.run_modify, h]
  rfl

/-- What stands after a check that a command has a place in the document. -/
theorem carries_allow {name : Text} {allowed : Bool} {action : Engine Unit} {edit : Edit}
    (h : Carries place load action (.ok (.edit edit))) :
    Carries place load (allow kind place name allowed >>= fun _ ↦ action)
      (Directive.allowIf allowed kind name edit) := by
  cases allowed with
  | true => exact h
  | false => exact carries_failAt (.notAllowed name kind)

/-- What stands after a check that the document may have content. -/
theorem carries_rejectInTemplate {raw : Text} {action : Engine Unit} {edit : Edit}
    (h : Carries place load action (.ok (.edit edit))) :
    Carries place load (rejectInTemplate kind place raw >>= fun _ ↦ action)
      (Directive.content kind raw edit) := by
  rw [rejectInTemplate, Directive.content]
  by_cases hkind : kind = .template
  · rw [if_pos hkind, if_pos hkind]
    exact carries_failAt (.contentInTemplate (Text.trim raw))
  · rw [if_neg hkind, if_neg hkind]
    exact h

theorem carries_text (raw content : Text) :
    Carries place load (text kind place raw content)
      (Directive.ofLine kind now raw (.text content)) := by
  cases content with
  | nil => exact carries_modify fun _ ↦ rfl
  | cons c rest =>
    refine carries_rejectInTemplate fun draft h ↦ ?_
    have htargets : ({ draft with afterBlank := false } : Draft).TargetsLast := h
    have hpush := run_push htargets (draft.separator :: c :: rest)
    rw [StateT.run_bind, StateT.run_get]
    exact hpush

theorem carries_command (name argument : Text) :
    Carries place load (command kind place load name argument)
      (Directive.ofCommand kind name argument) := by
  rw [command, Directive.ofCommand]
  cases Command.decode name argument with
  | error fault =>
    cases fault with
    | unknown => exact carries_failAt (.unknownCommand name)
    | color fault => exact carries_failAt (.invalidColor argument fault)
    | replacement => exact carries_failAt (.invalidReplacement argument)
  | ok command =>
    cases command with
    | set key value => exact carries_modify fun _ ↦ rfl
    | color value => exact carries_modify fun _ ↦ rfl
    | image url => exact carries_allow (carries_modify fun _ ↦ rfl)
    | name symbol => exact carries_allow (carries_modify fun _ ↦ rfl)
    | replace declaration =>
      refine carries_allow (carries_modify fun draft ↦ ?_)
      rw [declareIn_eq]
      rfl
    | includeTemplate template =>
      intro draft _
      dsimp only
      rw [StateT.run_bind, run_await, outcome, Directive.resolve]
      -- a template that does not exist changes nothing, as if it had no attributes
      obtain ⟨events, error | _ | template⟩ := load template
      · rfl
      · simp [mapError_ok, Draft.apply, Draft.mapAttributes, Draft.mapEmbed,
          Attributes.fillFrom_empty]
      · simp [mapError_ok, Draft.apply]

/-- **The engine does what a line asks for**, whatever the lines before have left behind. -/
theorem carries_line (raw : Text) :
    Carries place load (line kind place load now raw) (Directive.read kind now raw) := by
  rw [line, Directive.read]
  cases Line.classify raw with
  | text content => exact carries_text raw content
  | command name argument => exact carries_command name argument
  | heading title => exact carries_rejectInTemplate fun _ _ ↦ rfl
  | subheading title =>
    refine carries_rejectInTemplate fun draft _ ↦ ?_
    simp [outcome, Directive.resolve, mapError_ok, Draft.apply, Draft.mapEmbed]
  | color argument =>
    dsimp only [Directive.ofLine]
    cases Color.read argument with
    | ok value => exact carries_modify fun _ ↦ rfl
    | error fault => exact carries_failAt (.invalidColor argument fault)
  | timestamp argument =>
    dsimp only [Directive.ofLine]
    cases Timestamp.read now argument with
    | some time => exact carries_modify fun _ ↦ rfl
    | none => exact carries_failAt (.invalidTimestamp argument)

/-- One line of the engine is one line of the parser. -/
theorem run_line {draft : Draft} (h : draft.TargetsLast) (raw : Text) :
    (line kind place load now raw).run draft =
      (lineEdit load kind now place.number place.span raw).mapError .error >>= fun edit ↦
        pure ((), draft.apply edit) :=
  carries_line raw draft h

/-! ## All lines -/

/-- **One pass over the lines makes the edits of the parser.**  The induction is on the lines, and
what carries it is that the active field stays the last one. -/
theorem run_lines {draft : Draft} (h : draft.TargetsLast) (number offset : Nat)
    (source : List Text) :
    (lines load kind now number offset source).run draft =
      (lineEdits load kind now number offset source).mapError .error >>= fun edits ↦
        pure ((), edits.foldl Draft.apply draft) := by
  induction source generalizing draft number offset with
  | nil => rfl
  | cons first rest ih =>
    rw [lines, lineEdits, StateT.run_bind, run_line h]
    dsimp only
    obtain ⟨events, error | edit⟩ := lineEdit load kind now number
      ⟨offset, offset + Text.byteSize (Text.chomp first)⟩ (Text.chomp first)
    · rfl
    · have hrest := ih (h.apply edit) (number + 1) (offset + Text.byteSize (Text.chomp first) + 1)
      simp only [mapError_ok, Run.bind_ok, Run.pure_eq, hrest]
      obtain ⟨others, error | edits⟩ := lineEdits load kind now (number + 1)
        (offset + Text.byteSize (Text.chomp first) + 1) rest <;>
        simp [mapError_ok, mapError_error]

theorem targetsLast_empty : ({} : Draft).TargetsLast :=
  fun _ htarget ↦ by cases htarget

/-- **The engine comes to what the parser does**: to the same document or the same error, with the
same events on the way.  It never finds the active field missing. -/
theorem parse_eq (load : Text → Run ParseError (Option Template)) (kind : DocumentKind) (now : Text)
    (source : List Text) :
    parse load kind now source = (documentOfLines load kind now source).mapError .error := by
  rw [parse, documentOfLines, run_lines targetsLast_empty]
  obtain ⟨events, error | edits⟩ := lineEdits load kind now 1 0 source
  · rfl
  · simp [mapError_ok, Draft.ofEdits]

/-- **No error depends on what has been gathered.**  From any two drafts, the engine asks for the
same on the way, and it stops at the same line for the same reason or at none. -/
theorem lines_alike {first second : Draft} (hfirst : first.TargetsLast)
    (hsecond : second.TargetsLast) (number offset : Nat) (source : List Text) :
    ((lines load kind now number offset source).run first).events =
        ((lines load kind now number offset source).run second).events ∧
      ∀ stop, ((lines load kind now number offset source).run first).result = .error stop ↔
        ((lines load kind now number offset source).run second).result = .error stop := by
  rw [run_lines hfirst, run_lines hsecond]
  obtain ⟨events, error | edits⟩ := lineEdits load kind now number offset source <;>
    simp [mapError_ok, mapError_error]

end

/-- In a draft whose active field is missing, text would stop the engine. -/
example : ((push "x").run { target := .field 0 }).result = .error (.missingField 0) := rfl

end Engine
end ChatEmbed

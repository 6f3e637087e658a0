import ChatEmbed.Proofs.Attributes
import ChatEmbed.Proofs.Templates
import Mathlib.Data.List.DropRight

/-!
# Where the attributes of a document come from

A line can set an attribute in so many words, and a template only fills in what is not set.  Both
may be repeated and mixed, and a line that sets an attribute to nothing opens the gap again.  The
rule that comes out of this is local to one attribute:

* the last line that gives the attribute a value decides, if that value is not empty;
* if it is, or if there is no such line, the first template after it that has a value does.

`Slot.settled` is this rule for the lines of one file, and `Inherits` is the rule for a file whose
templates follow it in turn.  Neither mentions drafts, edits, or the chain of open templates.
`inherits_of_documentOfLines` says that what the parser computes is what the rule says, and
`Inherits.unique` that the rule leaves no choice.
-/

set_option autoImplicit false

namespace ChatEmbed

/-! ## The rule for the lines of one file -/

namespace Slot

variable (slot : Slot) (now : Text) (supply : Text → Option Attributes)

/-- The value that a line gives to an attribute in so many words. -/
def given? (now : Text) : (slot : Slot) → Line → Option slot.Value
  | .text key, .command name argument =>
    if Attribute.ofCommand? name = some key then some argument else none
  | .color, .command name argument =>
    if name = "color".toList then (Color.read argument).toOption else none
  | .color, .color argument => (Color.read argument).toOption
  | .timestamp, .timestamp argument => Timestamp.read now argument
  | _, _ => none

/-- The value of the last line that gives the attribute one, or the unset value. -/
def lastGiven (lines : List Line) : slot.Value :=
  (lines.filterMap (slot.given? now)).getLast?.getD slot.unset

/-- The lines after the last one that gives the attribute a value, which are all of them if none
does. -/
def linesAfter (lines : List Line) : List Line :=
  lines.rtakeWhile fun line ↦ (slot.given? now line).isNone

/-- What the template of a line has for the attribute, if the line asks for one and it exists. -/
def offered? (line : Line) : Option slot.Value :=
  (line.template?.bind supply).map fun attributes ↦ attributes.value slot

/-- The first value that is set, if there is one. -/
def firstSet (values : List slot.Value) : slot.Value :=
  (values.find? fun v ↦ v ≠ slot.unset).getD slot.unset

/-- **The rule for one attribute.**  `supply` has the attributes of the templates by their names. -/
def settled (lines : List Line) : slot.Value :=
  if slot.lastGiven now lines ≠ slot.unset then slot.lastGiven now lines
  else slot.firstSet ((slot.linesAfter now lines).filterMap (slot.offered? supply))

variable {slot now supply}

theorem firstSet_concat (values : List slot.Value) (v : slot.Value) :
    slot.firstSet (values ++ [v]) =
      if slot.firstSet values = slot.unset then v else slot.firstSet values := by
  rw [firstSet, firstSet, List.find?_append]
  cases hfind : values.find? fun v ↦ decide (v ≠ slot.unset) with
  | none =>
    rw [Option.none_or, Option.getD_none, if_pos rfl]
    by_cases hv : v = slot.unset
    · rw [List.find?_cons_of_neg (by simpa using hv), List.find?_nil, Option.getD_none, hv]
    · rw [List.find?_cons_of_pos (by simpa using hv), Option.getD_some]
  | some found =>
    have hset : found ≠ slot.unset := by simpa using List.find?_some hfind
    rw [Option.some_or, Option.getD_some, if_neg hset]

theorem settled_eq_lastGiven {lines : List Line} (h : slot.lastGiven now lines ≠ slot.unset) :
    slot.settled now supply lines = slot.lastGiven now lines :=
  if_pos h

theorem settled_eq_firstSet {lines : List Line} (h : slot.lastGiven now lines = slot.unset) :
    slot.settled now supply lines =
      slot.firstSet ((slot.linesAfter now lines).filterMap (slot.offered? supply)) :=
  if_neg (not_not_intro h)

theorem settled_nil : slot.settled now supply [] = slot.unset :=
  settled_eq_firstSet rfl

/-- Only the templates that the lines ask for have a say. -/
theorem settled_congr {other : Text → Option Attributes} {lines : List Line}
    (h : ∀ line ∈ lines, ∀ name, line.template? = some name → supply name = other name) :
    slot.settled now supply lines = slot.settled now other lines := by
  have hoffered : (slot.linesAfter now lines).filterMap (slot.offered? supply) =
      (slot.linesAfter now lines).filterMap (slot.offered? other) := by
    refine List.filterMap_congr fun line hline ↦ ?_
    have hmem : line ∈ lines := (List.rtakeWhile_suffix _ _).subset hline
    cases htemplate : line.template? with
    | none => rw [offered?, offered?, htemplate]; rfl
    | some name => rw [offered?, offered?, htemplate, Option.bind_some, Option.bind_some,
        h line hmem name htemplate]
  rw [settled, settled, hoffered]

/-- **The rule, one line further.**  A line that gives a value settles the matter anew; any other
line only has a say as long as nothing is set. -/
theorem settled_concat (lines : List Line) (line : Line) :
    slot.settled now supply (lines ++ [line]) =
      (slot.given? now line).getD
        (if slot.settled now supply lines = slot.unset then
          (slot.offered? supply line).getD slot.unset
        else slot.settled now supply lines) := by
  cases hgiven : slot.given? now line with
  | some v =>
    have hlast : slot.lastGiven now (lines ++ [line]) = v := by
      simp [lastGiven, List.filterMap_append, hgiven]
    have hafter : slot.linesAfter now (lines ++ [line]) = [] :=
      List.rtakeWhile_concat_neg _ _ _ (by simp [hgiven])
    rw [settled, hlast, hafter, Option.getD_some]
    split
    · rfl
    · next h => simpa [firstSet, eq_comm] using h
  | none =>
    have hlast : slot.lastGiven now (lines ++ [line]) = slot.lastGiven now lines := by
      simp [lastGiven, List.filterMap_append, hgiven]
    have hafter : slot.linesAfter now (lines ++ [line]) = slot.linesAfter now lines ++ [line] :=
      List.rtakeWhile_concat_pos _ _ _ (by simp [hgiven])
    rw [Option.getD_none]
    by_cases h : slot.lastGiven now lines = slot.unset
    · rw [settled_eq_firstSet h, settled_eq_firstSet (hlast.trans h), hafter,
        List.filterMap_append]
      cases hoffer : slot.offered? supply line with
      | none =>
        rw [List.filterMap_cons_none hoffer, List.filterMap_nil, List.append_nil, Option.getD_none]
        split
        · next hunset => exact hunset
        · rfl
      | some v =>
        rw [List.filterMap_cons_some hoffer, List.filterMap_nil, firstSet_concat, Option.getD_some]
    · rw [settled_eq_lastGiven h, settled_eq_lastGiven (hlast ▸ h), hlast, if_neg h]

end Slot

/-! ## One line and the edit it makes -/

theorem Line.Asks.given?_eq {kind : DocumentKind} {now : Text} {line : Line} {edit : Edit}
    (h : line.Asks kind now (.edit edit)) (slot : Slot) :
    edit.given? slot = slot.given? now line := by
  cases h with
  | @set name argument key known =>
    cases slot with
    | text other => simp only [Edit.given?, Slot.given?, known, Option.some.injEq, eq_comm]
    | color =>
      have hne : name ≠ "color".toList := by
        rintro rfl
        cases known
      exact (if_neg hne).symm
    | timestamp => rfl
  | color valid =>
    cases slot with
    | color => simp [Edit.given?, Slot.given?, valid, Except.toOption]
    | _ => rfl
  | colorSign valid =>
    cases slot with
    | color => simp [Edit.given?, Slot.given?, valid, Except.toOption]
    | _ => rfl
  | timestamp valid =>
    cases slot with
    | timestamp => exact valid.symm
    | _ => rfl
  | _ => cases slot <;> rfl

theorem Line.Asks.offered_eq {kind : DocumentKind} {now : Text} {line : Line} {edit : Edit}
    (h : line.Asks kind now (.edit edit)) (slot : Slot) : edit.offered slot = slot.unset := by
  cases h <;> rfl

theorem given?_eq_none_of_template? {now : Text} {line : Line} {name : Text}
    (h : line.template? = some name) (slot : Slot) : slot.given? now line = none := by
  obtain ⟨argument, rfl, -⟩ := Line.template?_eq_some_iff.mp h
  cases slot <;> rfl

section

variable {load : Text → Run ParseError (Option Template)} {kind : DocumentKind} {now : Text}
variable {supply : Text → Option Attributes}

/-- **A line moves the value of an attribute as the rule does**, if `supply` has what its template
brings along. -/
theorem value_apply_of_makes {line : Text} {edit : Edit} (h : Makes load kind now line edit)
    (hsupply : ∀ name template, (Line.ofSource line).template? = some name →
      (load name).result = .ok template → supply name = template.map Template.attributes)
    (draft : Draft) (slot : Slot) :
    (draft.apply edit).attributes.value slot =
      (slot.given? now (Line.ofSource line)).getD
        (if draft.attributes.value slot = slot.unset then
          (slot.offered? supply (Line.ofSource line)).getD slot.unset
        else draft.attributes.value slot) := by
  rw [value_apply]
  cases htemplate : (Line.ofSource line).template? with
  | none =>
    have hasks := (makes_iff_of_template?_eq_none htemplate).mp h
    rw [hasks.given?_eq, hasks.offered_eq, Slot.offered?, htemplate]
    rfl
  | some name =>
    obtain ⟨template, hload, rfl⟩ := (makes_iff_of_template?_eq_some htemplate).mp h
    rw [given?_eq_none_of_template? htemplate, Slot.offered?, htemplate, Option.bind_some,
      hsupply name template htemplate hload]
    cases template with
    | none =>
      have hoffer : Edit.offered (.fill ((none.map Template.attributes).getD {})) slot
          = slot.unset := Attributes.value_empty slot
      rw [hoffer]
      rfl
    | some t => rfl

/-- **The attributes of a document follow the rule**, line after line. -/
theorem value_ofEdits {lines : List Text} {edits : List Edit}
    (h : List.Forall₂ (Makes load kind now) lines edits)
    (hsupply : ∀ line ∈ lines, ∀ name template, (Line.ofSource line).template? = some name →
      (load name).result = .ok template → supply name = template.map Template.attributes)
    (slot : Slot) :
    (Draft.ofEdits edits).attributes.value slot =
      slot.settled now supply (lines.map Line.ofSource) := by
  refine ofEdits_induction (motive := fun lines draft ↦
    (∀ line ∈ lines, ∀ name template, (Line.ofSource line).template? = some name →
      (load name).result = .ok template → supply name = template.map Template.attributes) →
    draft.attributes.value slot = slot.settled now supply (lines.map Line.ofSource))
    ?_ ?_ h hsupply
  · intro _
    rw [List.map_nil, Slot.settled_nil]
    exact Attributes.value_empty slot
  · intro lines draft line edit ih hmakes hsupply
    rw [List.map_append, List.map_singleton, Slot.settled_concat,
      value_apply_of_makes hmakes (hsupply line (by simp)),
      ih fun l hl ↦ hsupply l (List.mem_append_left _ hl)]

end

/-! ## The rule for a file and its templates -/

namespace Setting

/-- The attributes that a template supplies to the lines of a directory: none if it does not exist,
and else those that `attributes` has for it. -/
def supply (setting : Setting) (dir : Path) (attributes : Text → Attributes) (name : Text) :
    Option Attributes :=
  match setting.source.readLines (setting.config.templatePath dir name) with
  | .ok _ => some (attributes name)
  | .error _ => none

end Setting

/-- `Inherits setting dir lines final`: a file of these lines in this directory has the attributes
`final`, by the rule of `Slot.settled` for the file itself and, all the way down, for the templates
that it asks for. -/
inductive Inherits (setting : Setting) : Path → List Text → Attributes → Prop
  | intro {dir : Path} {lines : List Text} {final : Attributes} (attributes : Text → Attributes)
      (templates : ∀ line ∈ lines, ∀ name file, (Line.ofSource line).template? = some name →
        setting.source.readLines (setting.config.templatePath dir name) = .ok file →
        Inherits setting (Setting.dirOf (setting.config.templatePath dir name)) file
          (attributes name))
      (settled : ∀ slot, final.value slot =
        slot.settled setting.now (setting.supply dir attributes) (lines.map Line.ofSource)) :
      Inherits setting dir lines final

/-- **The rule leaves no choice**: a file has at most one set of attributes by it. -/
theorem Inherits.unique {setting : Setting} {dir : Path} {lines : List Text}
    {first second : Attributes} (hfirst : Inherits setting dir lines first)
    (hsecond : Inherits setting dir lines second) : first = second := by
  induction hfirst generalizing second with
  | @intro dir lines final attributes _ hfinal ih =>
    cases hsecond with
    | intro others htemplates hsecond =>
      refine Attributes.ext_value fun slot ↦ ?_
      rw [hfinal, hsecond]
      refine Slot.settled_congr fun l hl name hname ↦ ?_
      obtain ⟨line, hline, rfl⟩ := List.mem_map.mp hl
      rw [Setting.supply, Setting.supply]
      split
      · next file hfile =>
        rw [ih line hline name file hname hfile (htemplates line hline name file hname hfile)]
      · rfl

/-! ## The parser follows the rule -/

/-- What a template that was loaded supplies, and nothing if it was not. -/
def Run.attributes (run : Run ParseError (Option Template)) : Attributes :=
  match run.result with
  | .ok (some template) => template.attributes
  | _ => {}

theorem supply_eq_of_load {setting : Setting} {room : Nat} {chain : List Path} {dir : Path}
    {name : Text} {template : Option Template}
    (h : (loadTemplate setting room chain dir name).result = .ok template) :
    setting.supply dir (fun name ↦ (loadTemplate setting room chain dir name).attributes) name =
      template.map Template.attributes := by
  rw [Setting.supply, Run.attributes, h]
  cases loadTemplate_eq_iff.mp h with
  | missing fresh read missing => rw [read]; rfl
  | loaded fresh read parsed => rw [read]; rfl

/-- **The attributes of a document are inherited by the rule**, whatever templates are open.  The
induction is on the room that is left below the open templates. -/
theorem inherits_of_documentOfLines {setting : Setting} {room : Nat} {chain : List Path}
    {dir : Path} {kind : DocumentKind} {lines : List Text} {document : Blueprint}
    (h : (documentOfLines (loadTemplate setting room chain dir) kind setting.now lines).result
      = .ok document) : Inherits setting dir lines document.embed.attributes := by
  induction room using Nat.strong_induction_on generalizing chain dir kind lines document with
  | _ room ih =>
    obtain ⟨edits, hedits, rfl⟩ := documentOfLines_eq_ok_iff.mp h
    refine .intro (fun name ↦ (loadTemplate setting room chain dir name).attributes) ?_ ?_
    · intro line hline name file hname hfile
      have hmakes := exists_documentOfLines_iff.mp ⟨_, h⟩ line hline
      obtain ⟨edit, hedit⟩ := hmakes
      obtain ⟨template, hload, -⟩ := (makes_iff_of_template?_eq_some hname).mp hedit
      rw [Run.attributes, hload]
      cases loadTemplate_eq_iff.mp hload with
      | missing fresh read missing => rw [hfile] at read; cases read
      | loaded fresh read parsed =>
        rw [hfile] at read
        cases read
        exact ih _ (Nat.lt_succ_self _) parsed
    · exact value_ofEdits hedits fun _ _ _ _ _ hload ↦ supply_eq_of_load hload

/-- **Where the attributes of a document come from.**  If the lines are accepted, the document has
the attributes that the rule gives to them and to the templates below them, and no others: for each
of the nine, the last line that sets it decides unless it sets it to nothing, and then the first
template after that line that has a value does. -/
theorem parseLines_attributes {setting : Setting} {kind : DocumentKind} {dir : Path}
    {lines : List Text} {document : Blueprint}
    (h : (setting.parseLines kind dir lines).result = .ok document) :
    Inherits setting dir lines document.embed.attributes ∧
      ∀ other, Inherits setting dir lines other → other = document.embed.attributes := by
  have hinherits := inherits_of_documentOfLines h
  exact ⟨hinherits, fun other hother ↦ hother.unique hinherits⟩

/-- Two templates on a shelf, the first of which asks for the second. -/
def shelf : Setting where
  source := (MemoryFiles.ofList [
    ("t/outer.template.dem".toList, "@url A\n@template inner".toList),
    ("t/inner.template.dem".toList, "@url B\n%1".toList)]).source
  config := { maxDepth := 3 }

/-- A url that is set to nothing is open again to the templates that follow. -/
theorem parseLines_attributes_reopened :
    (shelf.parseLines .embed "." ["@url X".toList, "@template t/outer".toList, "@url".toList,
        "@template lost".toList, "@template t/outer".toList]).result
      = .ok { embed := { attributes := { url := "A".toList, color := 0x010101 } } } ∧
    Inherits shelf "." ["@url X".toList, "@template t/outer".toList, "@url".toList,
        "@template lost".toList, "@template t/outer".toList]
      { url := "A".toList, color := 0x010101 } := by
  refine ⟨?accepted, (parseLines_attributes ?accepted).1⟩
  decide +kernel

end ChatEmbed

import ChatEmbed.Proofs.Locality

/-!
# Kinds of documents are nested

A template may have fewer lines than an embed, and an embed fewer than a blueprint.  The kind of a
document decides nothing else: lines that all have a place in two kinds make the same document in
both, and ask for the same files on the way.

* `Line.Asks.change_kind` says which lines mean the same in another kind, and
  `documentOfLines_change_kind` says it of whole documents.
* Nothing but attributes can come out of a template (`eq_attributes_of_template`), so nothing is
  lost when a template that is included is kept for its attributes only.
* Nothing but a blueprint has placeholders (`replacements_eq_nil`).
-/

set_option autoImplicit false

namespace ChatEmbed

/-! ## Lines in another kind of document -/

/-- Whether a line is the command that declares a placeholder. -/
def Line.isReplace : Line → Bool
  | .command name _ => name = "replace".toList
  | _ => false

/-- **A line means the same in another kind of document**, unless it is content and the other one is
a template, or it declares a placeholder and only the first one is a blueprint.  Images and names
have a place where content has. -/
theorem Line.Asks.change_kind {kind other : DocumentKind} {now : Text} {line : Line}
    {directive : Directive} (h : line.Asks kind now directive)
    (hcontent : kind ≠ .template → other ≠ .template)
    (hreplace : kind = .blueprint → line.isReplace = true → other = .blueprint) :
    line.Asks other now directive := by
  cases h with
  | blank => exact .blank
  | write visible allowed => exact .write visible (hcontent allowed)
  | title allowed => exact .title (hcontent allowed)
  | field allowed => exact .field (hcontent allowed)
  | set known => exact .set known
  | color valid => exact .color valid
  | colorSign valid => exact .colorSign valid
  | timestamp valid => exact .timestamp valid
  | includeTemplate => exact .includeTemplate
  | image allowed => exact .image (hcontent allowed)
  | name allowed => exact .name (hcontent allowed)
  | declare allowed valid => exact .declare (hreplace allowed rfl) valid

section

variable {load : Text → Run ParseError (Option Template)} {kind other : DocumentKind} {now : Text}
variable {lines : List Text} {document : Blueprint}

/-- Lines that are read alike make the same edits in the same way. -/
theorem lineEdits_congr_read (number offset : Nat)
    (h : ∀ line ∈ lines, Directive.read other now (Text.chomp line)
      = Directive.read kind now (Text.chomp line)) :
    lineEdits load other now number offset lines = lineEdits load kind now number offset lines := by
  induction lines generalizing number offset with
  | nil => rfl
  | cons line rest ih =>
    obtain ⟨hline, hrest⟩ := List.forall_mem_cons.mp h
    rw [lineEdits, lineEdits, lineEdit, lineEdit, hline]
    simp only [ih _ _ hrest]

/-- **A document that is accepted is the same in another kind**, with the same run, if its lines
have a place there. -/
theorem documentOfLines_change_kind
    (h : (documentOfLines load kind now lines).result = .ok document)
    (hcontent : kind ≠ .template → other ≠ .template)
    (hreplace : kind = .blueprint →
      ∀ line ∈ lines, (Line.ofSource line).isReplace = true → other = .blueprint) :
    documentOfLines load other now lines = documentOfLines load kind now lines := by
  have hread (line : Text) (hline : line ∈ lines) :
      Directive.read other now (Text.chomp line) = Directive.read kind now (Text.chomp line) := by
    obtain ⟨_, directive, hasks, -⟩ := exists_documentOfLines_iff.mp ⟨document, h⟩ line hline
    have hother := hasks.change_kind hcontent fun hkind ↦ hreplace hkind line hline
    exact (ofLine_eq_ok_iff.mpr hother).trans (ofLine_eq_ok_iff.mpr hasks).symm
  rw [documentOfLines, documentOfLines, lineEdits_congr_read 1 0 hread]

/-! ## What a kind of document cannot have -/

/-- Whether an edit changes nothing but attributes. -/
def Edit.isAttribute : Edit → Bool
  | .blank | .set _ _ | .color _ | .timestamp _ | .fill _ => true
  | _ => false

/-- Whether an edit declares a placeholder. -/
def Edit.isDeclaration : Edit → Bool
  | .declare _ => true
  | _ => false

/-- A line that makes an edit fills in a template or asks for the edit itself. -/
theorem Makes.eq_fill_or_asks {line : Text} {edit : Edit} (h : Makes load kind now line edit) :
    (∃ attributes, edit = .fill attributes) ∨ (Line.ofSource line).Asks kind now (.edit edit) := by
  cases htemplate : (Line.ofSource line).template? with
  | none => exact .inr ((makes_iff_of_template?_eq_none htemplate).mp h)
  | some name =>
    obtain ⟨template, -, rfl⟩ := (makes_iff_of_template?_eq_some htemplate).mp h
    exact .inl ⟨_, rfl⟩

theorem Makes.isAttribute {line : Text} {edit : Edit} (h : Makes load .template now line edit) :
    edit.isAttribute = true := by
  obtain ⟨attributes, rfl⟩ | hasks := h.eq_fill_or_asks
  · rfl
  generalize Line.ofSource line = l at hasks
  cases hasks with
  | write _ allowed => exact absurd rfl allowed
  | title allowed => exact absurd rfl allowed
  | field allowed => exact absurd rfl allowed
  | image allowed => exact absurd rfl allowed
  | name allowed => exact absurd rfl allowed
  | declare allowed => cases allowed
  | _ => rfl

theorem Makes.isDeclaration {line : Text} {edit : Edit} (h : Makes load kind now line edit)
    (hkind : kind ≠ .blueprint) : edit.isDeclaration = false := by
  obtain ⟨attributes, rfl⟩ | hasks := h.eq_fill_or_asks
  · rfl
  generalize Line.ofSource line = l at hasks
  cases hasks with
  | declare allowed => exact absurd allowed hkind
  | _ => rfl

theorem eq_attributes_of_apply {draft : Draft} {edit : Edit} (hedit : edit.isAttribute = true)
    (h : draft.blueprint = { embed := { attributes := draft.blueprint.embed.attributes } }) :
    (draft.apply edit).blueprint =
      { embed := { attributes := (draft.apply edit).blueprint.embed.attributes } } := by
  obtain ⟨blueprint, target, afterBlank⟩ := draft
  dsimp only at h
  rw [h]
  cases edit with
  | write | title | field | image | name | declare => cases hedit
  | _ => rfl

theorem replacements_apply (draft : Draft) {edit : Edit} (h : edit.isDeclaration = false) :
    (draft.apply edit).blueprint.replacements = draft.blueprint.replacements := by
  cases edit with
  | declare => cases h
  | _ => rfl

/-- **A template has nothing but attributes**: no title, text, image, field or name, and no
placeholder. -/
theorem eq_attributes_of_template
    (h : (documentOfLines load .template now lines).result = .ok document) :
    document = { embed := { attributes := document.embed.attributes } } := by
  obtain ⟨edits, hedits, rfl⟩ := documentOfLines_eq_ok_iff.mp h
  refine ofEdits_induction (motive := fun _ draft ↦
    draft.blueprint = { embed := { attributes := draft.blueprint.embed.attributes } }) rfl ?_ hedits
  intro _ draft line edit ih hmakes
  exact eq_attributes_of_apply hmakes.isAttribute ih

/-- **Nothing but a blueprint has placeholders.** -/
theorem replacements_eq_nil (h : (documentOfLines load kind now lines).result = .ok document)
    (hkind : kind ≠ .blueprint) : document.replacements = [] := by
  obtain ⟨edits, hedits, rfl⟩ := documentOfLines_eq_ok_iff.mp h
  refine ofEdits_induction (motive := fun _ draft ↦ draft.blueprint.replacements = []) rfl ?_ hedits
  intro _ draft line edit ih hmakes
  rw [replacements_apply draft (hmakes.isDeclaration hkind), ih]

end

/-- **The kinds of documents are nested.**  Let the lines be parsed in any directory, while any
templates are being read.  If they are accepted as a template, then they make the same embed in the
same run, and it has nothing but attributes.  If they are accepted as an embed, then they make the
same blueprint in the same run, and it has no placeholders.  If they are accepted as a blueprint,
and no line declares a placeholder, then they make the same embed in the same run. -/
theorem parseBelow_nested (setting : Setting) (chain : List Path) (dir : Path) (lines : List Text) :
    (∀ document, (setting.parseBelow chain .template dir lines).result = .ok document →
      setting.parseBelow chain .embed dir lines = setting.parseBelow chain .template dir lines ∧
        document = { embed := { attributes := document.embed.attributes } }) ∧
    (∀ document, (setting.parseBelow chain .embed dir lines).result = .ok document →
      setting.parseBelow chain .blueprint dir lines = setting.parseBelow chain .embed dir lines ∧
        document.replacements = []) ∧
    ∀ document, (setting.parseBelow chain .blueprint dir lines).result = .ok document →
      (∀ line ∈ lines, (Line.ofSource line).isReplace = false) →
      setting.parseBelow chain .embed dir lines =
        setting.parseBelow chain .blueprint dir lines := by
  refine ⟨fun document h ↦ ⟨?_, eq_attributes_of_template h⟩,
    fun document h ↦ ⟨?_, replacements_eq_nil h nofun⟩, fun document h hlines ↦ ?_⟩
  · exact documentOfLines_change_kind h (fun hkind ↦ absurd rfl hkind) nofun
  · exact documentOfLines_change_kind h (fun _ ↦ nofun) nofun
  · refine documentOfLines_change_kind h (fun _ ↦ nofun) fun _ line hline hreplace ↦ ?_
    rw [hlines line hline] at hreplace
    cases hreplace

/-- A template that asks for another one. -/
def paired : Setting where
  source := MemoryFiles.source ⟨[
    ("t/base.template.dem", "@url B\n@template ./ink".toList),
    ("t/ink.template.dem", "%1".toList)]⟩

/-- Below an open template, directives and blank lines are accepted as every kind of document, and a
card is as good as a blueprint as long as it has no placeholders. -/
theorem parseBelow_nested_paired :
    (∀ kind, (paired.parseBelow ["top.template.dem"] kind "t" ["@template base".toList,
        ": x".toList, "@footer C".toList]).result
      = .ok { embed := { attributes := {
          url := "B".toList, color := 0x010101, footerText := "C".toList } } }) ∧
    (paired.parseBelow ["top.template.dem"] .embed "t" ["# A".toList, "@name a".toList,
        "@template base".toList, "b".toList]).result
      = .ok { embed := {
          title := "A".toList, text := " b".toList, name := some "a".toList,
          attributes := { url := "B".toList, color := 0x010101 } } } := by
  have htemplate : (paired.parseBelow ["top.template.dem"] .template "t" ["@template base".toList,
        ": x".toList, "@footer C".toList]).result
      = .ok { embed := { attributes := {
          url := "B".toList, color := 0x010101, footerText := "C".toList } } } := by
    decide +kernel
  have hblueprint : (paired.parseBelow ["top.template.dem"] .blueprint "t" ["# A".toList,
        "@name a".toList, "@template base".toList, "b".toList]).result
      = .ok { embed := {
          title := "A".toList, text := " b".toList, name := some "a".toList,
          attributes := { url := "B".toList, color := 0x010101 } } } := by
    decide +kernel
  have hembed : (paired.parseBelow ["top.template.dem"] .embed "t" ["@template base".toList,
        ": x".toList, "@footer C".toList]).result
      = .ok { embed := { attributes := {
          url := "B".toList, color := 0x010101, footerText := "C".toList } } } := by
    rw [((parseBelow_nested paired _ "t" _).1 _ htemplate).1]
    exact htemplate
  refine ⟨fun kind ↦ ?_, ?_⟩
  · cases kind with
    | template => exact htemplate
    | embed => exact hembed
    | blueprint =>
      rw [((parseBelow_nested paired _ "t" _).2.1 _ hembed).1]
      exact hembed
  · rw [(parseBelow_nested paired _ "t" _).2.2 _ hblueprint (by decide +kernel)]
    exact hblueprint

end ChatEmbed

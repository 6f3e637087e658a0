import ChatEmbed.Compiler
import ChatEmbed.Proofs.Kinds
import ChatEmbed.Proofs.Rendering

/-!
# Rendering when there is nothing to render

A blueprint goes through more than an embed does: its lines are read as another kind of document,
tokens are replaced in its JSON form, what has become empty is removed, and what has to be visible
is looked at once more.  If no token stands for anything else, then all of this is the identity.

* `Token.replaceAll_self` says so of texts, whichever tokens there are and however they overlap.
* `Json.mapText_eq_self` says so of values, and `Blueprint.render_neutral` of rendering, be the
  outcome a value or an error.
* `Directive.read_blueprint_eq` says that a line is read as in an embed, errors included, unless it
  declares a placeholder.
-/

set_option autoImplicit false

namespace ChatEmbed

/-! ## Values that stay as they are -/

/-- **Tokens that stand for themselves** change no text. -/
theorem Token.replaceAll_self {pairs : List Token.Pair} (h : ∀ pair ∈ pairs, pair.2 = pair.1)
    (s : Text) : Token.replaceAll pairs s = s := by
  obtain ⟨segments, hcuts, hwritten⟩ := Token.writes_iff.mpr (Eq.refl (Token.replaceAll pairs s))
  have hsame : pairs.map Prod.snd = pairs.map Prod.fst := List.map_congr_left h
  rw [hwritten, hsame]
  exact hcuts.flatMap_fill

namespace Json

/-- A value stays as it is if its texts do. -/
theorem mapText_eq_self {f : Text → Text} (h : ∀ s, f s = s) (value : Json) :
    mapText f value = value := by
  induction value using Json.tree_induction with
  | text s => exact congrArg _ (h s)
  | list items ih =>
    rw [mapText_list, List.map_congr_left ih, List.map_id']
  | object entries ih =>
    have hentries : entries.map (fun entry ↦ (entry.1, mapText f entry.2)) = entries := by
      refine (List.map_congr_left fun entry hentry ↦ ?_).trans (List.map_id' entries)
      rw [ih entry hentry]
    rw [mapText_object, hentries]
  | _ => rfl

end Json

namespace Blueprint

variable {blueprint : Blueprint} {overrides : Overrides}

/-- **Rendering changes nothing** if every declared token stands for itself: there is the same
value, or the same error. -/
theorem render_neutral
    (h : ∀ r ∈ blueprint.replacements, r.resolve overrides = .ok (r.token, r.token)) :
    blueprint.render overrides = blueprint.embed.payload := by
  have hresolve : blueprint.resolve overrides =
      .ok (blueprint.replacements.map fun r ↦ (r.token, r.token)) := by
    rw [resolve, mapM_eq_ok_iff, List.map_map]
    exact List.map_congr_left h
  have hself : ∀ pair ∈ blueprint.replacements.map fun r ↦ (r.token, r.token),
      pair.2 = pair.1 := by
    simp
  rw [render, hresolve]
  cases hpayload : blueprint.embed.payload with
  | error error => rfl
  | ok value =>
    have hvalue : (value.substitute (blueprint.replacements.map fun r ↦ (r.token, r.token))).prune
        = value := by
      rw [Json.substitute, Json.mapText_eq_self (Token.replaceAll_self hself),
        (Embed.tidy_payload hpayload).prune_eq]
    have hrequire : requireRendered value = .ok () := Embed.requireRendered_payload hpayload
    simp [bind, Except.bind, pure, Except.pure, hvalue, hrequire]

end Blueprint

/-! ## Lines that are read as in an embed -/

/-- The command that declares a placeholder has one name. -/
theorem eq_replace_of_decode {name argument : Text} {declaration : Replacement}
    (h : Command.decode name argument = .ok (.replace declaration)) : name = "replace".toList := by
  have hread : Directive.ofCommand .blueprint name argument =
      .ok (.edit (.declare declaration)) := by
    rw [Directive.ofCommand, h]
    rfl
  have hasks := @asks_of_ofCommand .blueprint [] name argument _ hread
  generalize hdirective : Directive.edit (.declare declaration) = directive at hasks
  cases hasks with
  | declare => rfl
  | _ => cases hdirective

/-- **A line is read as in an embed**, and is at fault as it is there, unless it declares a
placeholder. -/
theorem Directive.read_blueprint_eq {now line : Text}
    (h : (Line.ofSource line).isReplace = false) :
    Directive.read .blueprint now (Text.chomp line) =
      Directive.read .embed now (Text.chomp line) := by
  rw [Directive.read, Directive.read, ← Line.ofSource]
  generalize Line.ofSource line = l at h
  cases l with
  | command name argument =>
    rw [Directive.ofLine, Directive.ofLine, Directive.ofCommand, Directive.ofCommand]
    rcases hdecode : Command.decode name argument with fault | command
    · cases fault <;> rfl
    cases command with
    | replace declaration =>
      rw [eq_replace_of_decode hdecode] at h
      cases h
    | _ => rfl
  | text content => cases content <;> rfl
  | _ => rfl

/-- Lines that declare no placeholder make the same document as in an embed, with the same run. -/
theorem Setting.parseLines_blueprint_eq (setting : Setting) (dir : Path) {lines : List Text}
    (h : ∀ line ∈ lines, (Line.ofSource line).isReplace = false) :
    setting.parseLines .blueprint dir lines = setting.parseLines .embed dir lines := by
  have hread (line : Text) (hline : line ∈ lines) :
      Directive.read .blueprint setting.now (Text.chomp line) =
        Directive.read .embed setting.now (Text.chomp line) :=
    Directive.read_blueprint_eq (h line hline)
  rw [parseLines, parseLines, documentOfLines, documentOfLines, lineEdits_congr_read 1 0 hread]

/-- Two forms of a document come to the same if they do for the document that is parsed. -/
theorem Setting.finish_congr {parsed : Run ParseError Blueprint}
    {form other : Blueprint → Except ContentError Json}
    (h : ∀ document, parsed.result = .ok document → form document = other document) :
    finish parsed form = finish parsed other := by
  obtain ⟨events, error | document⟩ := parsed
  · rfl
  · rw [finish, finish]
    simp only [Run.mapError, Except.mapError, Run.bind_ok, h document rfl]

/-- The outcome of a document that is parsed is that of its form. -/
theorem Setting.result_finish_of_ok {parsed : Run ParseError Blueprint} {document : Blueprint}
    (h : parsed.result = .ok document) (form : Blueprint → Except ContentError Json) :
    (finish parsed form).result = (form document).mapError .content := by
  obtain ⟨events, result⟩ := parsed
  obtain rfl : result = .ok document := h
  rfl

/-- **A blueprint without placeholders is an embed.**  Let no line of a text declare a placeholder.
Then to parse the text as a blueprint and to render it, with whatever values for tokens, is to
compile it: the same files are asked for, and there is the same value or the same error.  And
whatever a blueprint is, rendering gives the JSON form of its embed as long as each declared token
stands for itself. -/
theorem renderText_eq_compileText :
    (∀ (setting : Setting) (dir : Path) (text : Text) (overrides : Overrides),
      (∀ line ∈ Text.lines text, (Line.ofSource line).isReplace = false) →
      setting.renderText dir text overrides = setting.compileText dir text) ∧
    ∀ (blueprint : Blueprint) (overrides : Overrides),
      (∀ r ∈ blueprint.replacements, r.resolve overrides = .ok (r.token, r.token)) →
      blueprint.render overrides = blueprint.embed.payload := by
  refine ⟨fun setting dir text overrides h ↦ ?_, fun blueprint overrides ↦
    Blueprint.render_neutral⟩
  rw [Setting.renderText, Setting.compileText, Setting.parseText, Setting.parseText,
    setting.parseLines_blueprint_eq dir h]
  refine Setting.finish_congr fun document hdocument ↦ Blueprint.render_neutral ?_
  rw [replacements_eq_nil hdocument nofun]
  exact List.forall_mem_nil _

/-- Tokens that overlap, the second one with a default. -/
def overlapping : Blueprint where
  embed := { title := "aaab".toList, text := " baab".toList, attributes := { url := "aa".toList } }
  replacements := [⟨"aa".toList, none⟩, ⟨"ab".toList, some "ab".toList⟩, ⟨[], some []⟩]

/-- A value for a token that is not declared changes neither what a text comes to nor what it lacks,
and the blueprint with its tokens is rendered as its embed. -/
theorem renderText_eq_compileText_overlapping :
    (paired.renderText "t" "@template base\n# aa\nb" [("aa".toList, [])]).result
      = .ok (.object [("title", .text "aa".toList), ("description", .text "b".toList),
        ("url", .text "B".toList), ("color", .ofNat 0x010101)]) ∧
    (paired.renderText "t" "# T\n## aa\n@name b" [("aa".toList, [])]).result
      = .error (.content (.missingText .embed)) ∧
    overlapping.render [("aa".toList, "aa".toList)]
      = .ok (.object [("title", .text "aaab".toList), ("description", .text "baab".toList),
        ("url", .text "aa".toList)]) := by
  have hplain : ∀ line ∈ Text.lines "@template base\n# aa\nb",
      (Line.ofSource line).isReplace = false := by
    decide +kernel
  have hparsed : (paired.parseText .embed "t" "@template base\n# aa\nb").result
      = .ok { embed := { title := "aa".toList, text := " b".toList,
                         attributes := { url := "B".toList, color := 0x010101 } } } := by
    decide +kernel
  have hlacking : ∀ line ∈ Text.lines "# T\n## aa\n@name b",
      (Line.ofSource line).isReplace = false := by
    decide +kernel
  have huntold : (paired.parseText .embed "t" "# T\n## aa\n@name b").result
      = .ok { embed := { title := "T".toList, fields := [{ title := "aa".toList }],
                         name := some "b".toList } } := by
    decide +kernel
  have hself : ∀ r ∈ overlapping.replacements,
      r.resolve [("aa".toList, "aa".toList)] = .ok (r.token, r.token) := by
    decide +kernel
  obtain ⟨htext, hblueprint⟩ := renderText_eq_compileText
  refine ⟨?_, ?_, ?_⟩
  · rw [htext paired "t" _ _ hplain, Setting.compileText, Setting.result_finish_of_ok hparsed]
    rfl
  · rw [htext paired "t" _ _ hlacking, Setting.compileText, Setting.result_finish_of_ok huntold]
    rfl
  · rw [hblueprint overlapping _ hself]
    rfl

end ChatEmbed

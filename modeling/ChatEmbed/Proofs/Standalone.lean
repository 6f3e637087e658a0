import ChatEmbed.Proofs.Depth
import ChatEmbed.Proofs.Footprint
import ChatEmbed.Proofs.Spelling

/-!
# A template on its own

The file of a template can be parsed directly, with no document that asks for it.  It should mean
the same then, but the two parses keep different books: directly, the file is not on the chain of
open templates, so it takes up no room, and a cycle through it is found one turn later.

* `loadTemplate_withChain` says when the chain does not matter for a template: when the template is
  loaded and leads to nothing else that is on the new chain.
* `not_reaches_of_ok` says that a file which is accepted directly does not lead to itself.  To come
  back to it once is to come back to it any number of times, and the chain ends the second turn.
* `template_eq_some_iff` puts the two together.
-/

set_option autoImplicit false

namespace ChatEmbed

/-! ## Another chain -/

/-- Runs in a row that succeed have parts that do. -/
theorem congruence_succeeds :
    Run.Congruence fun _ run other ↦ (∃ value, run.result = .ok value) → other = run :=
  Run.congruence_of_parts
    (fun ⟨_, h⟩ ↦
      have ⟨first, hfirst, _⟩ := Run.result_bind_eq_ok_iff.mp h
      ⟨first, hfirst⟩)
    fun {_ _ run next value} hvalue ⟨last, h⟩ ↦ by
      obtain ⟨first, hfirst, hlast⟩ := Run.result_bind_eq_ok_iff.mp h
      obtain rfl := Except.ok.inj (hvalue.symm.trans hfirst)
      exact ⟨last, hlast⟩

section

variable {setting : Setting} {limit room : Nat} {chain other : List Path} {dir : Path}

/-- **A template that is loaded is loaded in the same way below another chain**, if it leads to no
template of that chain but those that are open anyway.  The induction is on the room. -/
theorem loadTemplate_withChain {name : Text} {target : Path}
    (hpath : setting.config.templatePath dir name = target)
    (hother : ∀ path ∈ other, setting.Leads target path → path ∈ chain)
    (h : ∃ template, (loadTemplate setting room chain dir name).result = .ok template) :
    loadTemplate (setting.withLimit limit) room other dir name =
      loadTemplate setting room chain dir name := by
  have hsame : (setting.withLimit limit).config.templatePath dir name = target := hpath
  obtain ⟨template, hload⟩ := h
  have hloads := loadTemplate_eq_iff.mp hload
  rw [hpath] at hloads
  induction room generalizing chain other dir name target template with
  | zero => cases hloads
  | succ below ih =>
    have fresh := hloads.not_mem
    have hfresh : target ∉ other := fun hmem ↦ fresh (hother target hmem (.inl rfl))
    rcases hfile : setting.source.readLines target with failure | file
    · rw [loadTemplate_succ_of_error hpath fresh hfile,
        loadTemplate_succ_of_error hsame hfresh hfile]
    have hdocument : (setting.withLimit limit).templateDocument below other target file =
        setting.templateDocument below chain target file := by
      obtain ⟨_, document, ⟨⟩, hparsed⟩ := hloads.exists_document hfile
      refine congruence_succeeds.documentOfLines_of_asked _ _ .template setting.now
        (fun line hline next hnext ⟨inner, hinner⟩ ↦ ?_) ⟨document, hparsed⟩
      refine ih rfl (fun path hmem hleads ↦ ?_) rfl inner hinner (loadTemplate_eq_iff.mp hinner)
      rcases List.mem_append.mp hmem with hmem | hmem
      · have hpath := hother path hmem (.inr ⟨file, hfile, hleads.reaches hline hnext⟩)
        exact List.mem_append_left _ hpath
      · exact List.mem_append_right _ hmem
    rw [loadTemplate_succ_of_ok hpath fresh hfile, loadTemplate_succ_of_ok hsame hfresh hfile,
      hdocument]

end

/-! ## Coming back -/

/-- After a template a walk can go on in any other way that goes on from there. -/
theorem Walk.replace_rest {setting : Setting} {dir target : Path} {lines file : List Text}
    {before after rest : List Path} (h : Walk setting dir lines (before ++ target :: after))
    (read : setting.source.readLines target = .ok file)
    (onward : Walk setting (Setting.dirOf target) file rest) :
    Walk setting dir lines (before ++ target :: rest) := by
  induction before generalizing dir lines with
  | nil =>
    cases h with
    | stop asked | go asked => exact .go asked read onward
  | cons first before ih =>
    rw [List.cons_append] at h ⊢
    generalize hwalk : before ++ target :: after = walk at h
    cases h with
    | stop asked => simp at hwalk
    | go asked there further =>
      subst hwalk
      exact .go asked there (ih further)

/-- **A file that is accepted does not lead to itself.**  A walk that comes back to it could come
back to it once more, and then it would come to it twice. -/
theorem not_reaches_of_ok {setting : Setting} {room : Nat} {chain : List Path} {kind : DocumentKind}
    {path : Path} {file : List Text} {document : Blueprint} (hchain : chain.Nodup)
    (read : setting.source.readLines path = .ok file)
    (h : (documentOfLines (loadTemplate setting room chain (Setting.dirOf path)) kind setting.now
      file).result = .ok document) : ¬setting.Reaches (Setting.dirOf path) file path := by
  rintro ⟨walk, hwalk, hmem⟩
  obtain ⟨before, after, rfl⟩ := List.append_of_mem hmem
  have hagain := (hwalk.replace_rest read hwalk).fits_of_ok hchain h
  have hnodup := hagain.1.of_append_right.of_append_right
  exact (List.nodup_cons.mp hnodup).1 hmem

/-! ## The two parses -/

namespace Setting

/-- The directory of a file is the same in both parses, but for its spelling. -/
theorem normalize_homeOf (path : Path) :
    Path.normalize (homeOf path) = Path.normalize (dirOf path) := by
  rw [homeOf, dirOf]
  cases Path.parent? path with
  | none => decide
  | some dir => rfl

variable {setting : Setting} {path : Path}

/-- The file of a template, parsed directly. -/
theorem parseTemplateFile_of_ok {file : List Text}
    (read : setting.source.readLines path = .ok file) :
    setting.parseTemplateFile path =
      ⟨.read path :: (setting.parseLines .template (dirOf path) file).events,
        match (setting.parseLines .template (dirOf path) file).result with
        | .ok document => .ok ⟨path, document.embed.attributes⟩
        | .error error => .error error⟩ := by
  rw [parseTemplateFile, parseFile, read, ← homeOf]
  dsimp only
  rw [setting.parseLines_congr .template (normalize_homeOf path)]
  rcases setting.parseLines .template (dirOf path) file with ⟨events, error | document⟩
  all_goals simp [Run.note]

theorem parseTemplateFile_of_error {failure : ReadFailure}
    (read : setting.source.readLines path = .error failure) :
    setting.parseTemplateFile path = ⟨[.read path], .error (.unreadable path failure)⟩ := by
  rw [parseTemplateFile, parseFile, read]
  simp [Run.note, Run.fail]

end Setting

/-- **The chain of a template is its own file**: the lines of the file are accepted below it, with
room for as many templates as they are directly, and they come to the same. -/
theorem templateDocument_eq_parseLines {setting : Setting} {limit : Nat} {path : Path}
    {file : List Text} (read : setting.source.readLines path = .ok file)
    (h : (∃ document, ((setting.withLimit (limit + 1)).templateDocument limit [] path file).result
        = .ok document) ∨
      ∃ document, ((setting.withLimit limit).parseLines .template (Setting.dirOf path) file).result
        = .ok document) :
    (setting.withLimit (limit + 1)).templateDocument limit [] path file =
      (setting.withLimit limit).parseLines .template (Setting.dirOf path) file := by
  rcases h with hincluded | hdirect
  · -- nothing is open directly, so there is nothing to come back to
    refine (congruence_succeeds.documentOfLines _ _ (fun name hname ↦ ?_) .template setting.now
      file hincluded).symm
    exact @loadTemplate_withChain (setting.withLimit (limit + 1)) limit limit [path] []
      (Setting.dirOf path) name _ rfl (List.forall_mem_nil _) hname
  · obtain ⟨document, hdocument⟩ := hdirect
    have hself := @not_reaches_of_ok (setting.withLimit limit) limit [] .template path file document
      List.nodup_nil read hdocument
    refine congruence_succeeds.documentOfLines_of_asked _ _ .template setting.now
      (fun line hline name hname hload ↦ ?_) ⟨document, hdocument⟩
    refine @loadTemplate_withChain (setting.withLimit limit) (limit + 1) limit [] [path]
      (Setting.dirOf path) name _ rfl (List.forall_mem_singleton.mpr fun hleads ↦ ?_) hload
    exact absurd (hleads.reaches hline hname) hself

section

variable {setting : Setting} {room : Nat} {dir path : Path} {name : Text} {file : List Text}

/-- What a document asks for is loaded when the lines of its file are accepted below it. -/
theorem loadTemplate_eq_some_iff (hpath : setting.config.templatePath dir name = path)
    (read : setting.source.readLines path = .ok file) (template : Template) :
    (loadTemplate setting (room + 1) [] dir name).result = .ok (some template) ↔
      ∃ document, (setting.templateDocument room [] path file).result = .ok document ∧
        ⟨path, document.embed.attributes⟩ = template := by
  rw [loadTemplate_succ_of_ok hpath List.not_mem_nil read]
  cases (setting.templateDocument room [] path file).result <;> simp

theorem Setting.parseTemplateFile_eq_ok_iff (read : setting.source.readLines path = .ok file)
    (template : Template) :
    (setting.parseTemplateFile path).result = .ok template ↔
      ∃ document, (setting.parseLines .template (Setting.dirOf path) file).result = .ok document ∧
        ⟨path, document.embed.attributes⟩ = template := by
  rw [parseTemplateFile_of_ok read]
  cases (setting.parseLines .template (Setting.dirOf path) file).result <;> simp

end

/-- **A template means the same parsed directly and included.**  From an empty chain, with room for
one more template, it is loaded exactly when its file is accepted directly, and it has the same path
and the same attributes.  The files that are asked for are the same as well. -/
theorem template_eq_some_iff (setting : Setting) (limit : Nat) (dir : Path) (name : Text) :
    (∀ template, ((setting.withLimit (limit + 1)).template dir name).result = .ok (some template) ↔
      ((setting.withLimit limit).parseTemplateFile
        (setting.config.templatePath dir name)).result = .ok template) ∧
    ∀ template, ((setting.withLimit (limit + 1)).template dir name).result = .ok (some template) →
      template.path = setting.config.templatePath dir name ∧
      ((setting.withLimit (limit + 1)).template dir name).reads =
        ((setting.withLimit limit).parseTemplateFile
          (setting.config.templatePath dir name)).reads := by
  generalize hpath : setting.config.templatePath dir name = path
  have hwide : (setting.withLimit (limit + 1)).config.templatePath dir name = path := hpath
  have hload : (setting.withLimit (limit + 1)).template dir name =
      loadTemplate (setting.withLimit (limit + 1)) (limit + 1) [] dir name := rfl
  rw [hload]
  rcases hfile : setting.source.readLines path with failure | file
  · have hnever (template : Template) : (loadTemplate (setting.withLimit (limit + 1)) (limit + 1) []
        dir name).result ≠ .ok (some template) := by
      rw [loadTemplate_succ_of_error hwide List.not_mem_nil hfile]
      cases failure.isMissing <;> simp
    have hdirect := @Setting.parseTemplateFile_of_error (setting.withLimit limit) _ _ hfile
    refine ⟨fun template ↦ ⟨fun h ↦ absurd h (hnever template), fun h ↦ ?_⟩,
      fun template h ↦ absurd h (hnever template)⟩
    rw [hdirect] at h
    cases h
  · have hincluded := @loadTemplate_eq_some_iff (setting.withLimit (limit + 1)) limit _ _ _ _ hwide
      hfile
    have hdirect := @Setting.parseTemplateFile_eq_ok_iff (setting.withLimit limit) _ _ hfile
    refine ⟨fun template ↦ ?_, fun template h ↦ ?_⟩
    · rw [hincluded, hdirect]
      constructor
      · rintro ⟨document, hdocument, htemplate⟩
        rw [templateDocument_eq_parseLines hfile (.inl ⟨document, hdocument⟩)] at hdocument
        exact ⟨document, hdocument, htemplate⟩
      · rintro ⟨document, hdocument, htemplate⟩
        rw [← templateDocument_eq_parseLines hfile (.inr ⟨document, hdocument⟩)] at hdocument
        exact ⟨document, hdocument, htemplate⟩
    · obtain ⟨document, hdocument, rfl⟩ := (hincluded template).mp h
      refine ⟨rfl, ?_⟩
      rw [reads_loadTemplate_of_ok hwide List.not_mem_nil hfile,
        templateDocument_eq_parseLines hfile (.inl ⟨document, hdocument⟩),
        @Setting.parseTemplateFile_of_ok (setting.withLimit limit) _ _ hfile]
      rfl

/-- A template that asks for another one by two ways. -/
def booklet : Setting where
  source := MemoryFiles.source ⟨[
    ("cover.template.dem", "@template ink\n@template ./in/../ink".toList),
    ("ink.template.dem", "%1\n@url u".toList)]⟩

/-- The cover has its attributes with room for one template if it is parsed directly, and with room
for two if it is included. -/
theorem template_eq_some_iff_booklet :
    ((booklet.withLimit 1).parseTemplateFile "cover.template.dem").result
      = .ok ⟨"cover.template.dem", { color := 0x010101, url := "u".toList }⟩ ∧
    ((booklet.withLimit 2).template "." "cover").result
      = .ok (some ⟨"cover.template.dem", { color := 0x010101, url := "u".toList }⟩) ∧
    ((booklet.withLimit 2).template "." "cover").reads
      = ((booklet.withLimit 1).parseTemplateFile "cover.template.dem").reads := by
  have hdirect : ((booklet.withLimit 1).parseTemplateFile "cover.template.dem").result
      = .ok ⟨"cover.template.dem", { color := 0x010101, url := "u".toList }⟩ := by
    decide +kernel
  obtain ⟨hiff, hsame⟩ := template_eq_some_iff booklet 1 "." "cover"
  have hincluded := (hiff _).mpr hdirect
  exact ⟨hdirect, hincluded, (hsame _ hincluded).2⟩

/-- A cycle through the file itself is found one turn later if the file is parsed directly. -/
example : ((ring.withLimit 3).parseTemplateFile "one.template.dem").result
    = .error (.inTemplate "two.template.dem" (.inTemplate "one.template.dem"
        (.cyclic ["two.template.dem".toList, "one.template.dem".toList,
          "two.template.dem".toList]))) := by
  decide +kernel

end ChatEmbed

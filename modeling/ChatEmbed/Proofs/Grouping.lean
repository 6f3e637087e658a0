import ChatEmbed.Proofs.Attributes
import ChatEmbed.Proofs.Depth
import ChatEmbed.Proofs.Footprint
import ChatEmbed.Proofs.Spelling

/-!
# Templates that are asked for together

Lines that ask for templates, one after the other, can be moved into a template of their own, and
the document asks for that one instead.  It must not matter how inclusions are grouped in this way,
but for the one template more that is open.

* `Groups` and `GroupsInFiles` say which lines are grouped.
* `foldl_apply_fill` is why nothing changes: to fill in several records one after the other is to
  put them together and fill in the result.
* The two parses open different templates.  `Abreast` is what they have in common: the second one is
  inside the templates that the first one is inside of and perhaps in the group, and it has room for
  the group as long as it may still come to it.  It never comes to it twice.  Inside the group it
  opens one of the templates of the group, and from there on another group would be a cycle without
  the grouping already.
-/

set_option autoImplicit false

namespace ChatEmbed

/-! ## Lines that are grouped -/

/-- The lines ask for the templates of these names, one each and in this order. -/
def AskFor (names : List Text) (lines : List Text) : Prop :=
  List.Forall₂ (fun name line ↦ (Line.ofSource line).template? = some name) names lines

/-- The second list is the first one with some runs of lines replaced.  Such a run asks for the
templates of the names, and one line takes its place, which asks for the template at `group`.  That
one is in the same directory. -/
inductive Groups (setting : Setting) (names : List Text) (group : Path) (dir : Path) :
    List Text → List Text → Prop
  | done : Groups setting names group dir [] []
  | keep {lines fewer : List Text} (line : Text)
      (rest : Groups setting names group dir lines fewer) :
      Groups setting names group dir (line :: lines) (line :: fewer)
  | group {run lines fewer : List Text} {line name : Text} (asks : AskFor names run)
      (asked : (Line.ofSource line).template? = some name)
      (path : setting.config.templatePath dir name = group)
      (home : Path.normalize (Setting.dirOf group) = Path.normalize dir)
      (rest : Groups setting names group dir lines fewer) :
      Groups setting names group dir (run ++ lines) (line :: fewer)

/-- Runs of lines are grouped in files, and the template at `group` has such a run for its lines.
The same other files exist, and what cannot be read for whatever reason still cannot. -/
structure GroupsInFiles (setting : Setting) (names : List Text) (group : Path)
    (grouped : Source) : Prop where
  together : ∃ run, grouped.readLines group = .ok run ∧ AskFor names run
  file : ∀ path file, Path.normalize path = path → path ≠ group →
    setting.source.readLines path = .ok file →
    ∃ fewer, grouped.readLines path = .ok fewer ∧
      Groups setting names group (Setting.dirOf path) file fewer
  failure : ∀ path failure, Path.normalize path = path → path ≠ group →
    setting.source.readLines path = .error failure → grouped.readLines path = .error failure

namespace Groups

variable {setting : Setting} {names : List Text} {group dir : Path}

theorem refl (setting : Setting) (names : List Text) (group dir : Path) (lines : List Text) :
    Groups setting names group dir lines lines := by
  induction lines with
  | nil => exact .done
  | cons line rest ih => exact .keep line ih

/-- One run is grouped, and all other lines are kept. -/
theorem append {run : List Text} {line name : Text} (before after : List Text)
    (asks : AskFor names run) (asked : (Line.ofSource line).template? = some name)
    (path : setting.config.templatePath dir name = group)
    (home : Path.normalize (Setting.dirOf group) = Path.normalize dir) :
    Groups setting names group dir (before ++ (run ++ after)) (before ++ line :: after) := by
  induction before with
  | nil =>
    rw [List.nil_append, List.nil_append]
    exact .group asks asked path home (refl setting names group dir after)
  | cons first before ih => exact .keep first ih

end Groups

/-! ## What templates supply -/

section

variable {load fetch : Text → Run ParseError (Option Template)} {kind : DocumentKind} {now : Text}
variable {names : List Text} {supplied : List Attributes}

/-- The attributes that are supplied by the templates of the names. -/
def Supplies (load : Text → Run ParseError (Option Template)) (names : List Text)
    (supplied : List Attributes) : Prop :=
  List.Forall₂ (fun name attributes ↦ ∃ template, (load name).result = .ok template ∧
    (template.map Template.attributes).getD {} = attributes) names supplied

theorem Supplies.of_load (h : Supplies load names supplied)
    (hload : ∀ name ∈ names, ∀ template, (load name).result = .ok template →
      (fetch name).result = .ok template) : Supplies fetch names supplied := by
  induction h with
  | nil => exact .nil
  | cons hfirst _ ih =>
    obtain ⟨template, hresult, hattributes⟩ := hfirst
    obtain ⟨hname, hnames⟩ := List.forall_mem_cons.mp hload
    exact .cons ⟨template, hname template hresult, hattributes⟩ (ih hnames)

theorem Supplies.exists_load (h : Supplies load names supplied) {name : Text}
    (hname : name ∈ names) : ∃ template, (load name).result = .ok template := by
  obtain ⟨attributes, -, template, hresult, -⟩ := exists_mem_of_forall₂ h hname
  exact ⟨template, hresult⟩

/-- Lines that ask for templates fill in what these supply. -/
theorem forall₂_makes_iff {run : List Text} (hrun : AskFor names run) {edits : List Edit} :
    List.Forall₂ (Makes load kind now) run edits ↔
      ∃ supplied, Supplies load names supplied ∧ supplied.map .fill = edits := by
  induction hrun generalizing edits with
  | nil =>
    constructor
    · rintro ⟨⟩
      exact ⟨[], .nil, rfl⟩
    · rintro ⟨_, ⟨⟩, rfl⟩
      exact .nil
  | cons hname _ ih =>
    constructor
    · rintro (_ | ⟨hfirst, hrest⟩)
      obtain ⟨template, hresult, rfl⟩ := (makes_iff_of_template?_eq_some hname).mp hfirst
      obtain ⟨supplied, hsupplies, rfl⟩ := ih.mp hrest
      exact ⟨_, .cons ⟨template, hresult, rfl⟩ hsupplies, rfl⟩
    · rintro ⟨_, _ | ⟨⟨template, hresult, rfl⟩, hsupplies⟩, rfl⟩
      exact .cons ((makes_iff_of_template?_eq_some hname).mpr ⟨template, hresult, rfl⟩)
        (ih.mpr ⟨_, hsupplies, rfl⟩)

/-- Defaults that are filled in one after the other can be put together first. -/
theorem Draft.apply_fill_fill (draft : Draft) (first second : Attributes) :
    (draft.apply (.fill first)).apply (.fill second) =
      draft.apply (.fill (first.fillFrom second)) := by
  have hassoc := Attributes.fillFrom_assoc draft.blueprint.embed.attributes first second
  simp only [apply, mapAttributes, mapEmbed, hassoc]

/-- **Why grouping changes nothing**: the templates of a run fill in what their attributes come to
when they are put together. -/
theorem foldl_apply_fill (supplied : List Attributes) (draft : Draft) :
    (supplied.map Edit.fill).foldl Draft.apply draft =
      draft.apply (.fill (supplied.foldl Attributes.fillFrom {})) := by
  have hfrom (first : Attributes) : (supplied.map Edit.fill).foldl Draft.apply
      (draft.apply (.fill first)) = draft.apply (.fill (supplied.foldl .fillFrom first)) := by
    induction supplied generalizing first with
    | nil => rfl
    | cons next rest ih => rw [List.map_cons, List.foldl_cons, draft.apply_fill_fill, ih]; rfl
  rw [← hfrom, Draft.apply_fill_empty]

/-- A template whose lines ask for others has the attributes of these, put together. -/
theorem attributes_ofEdits_fill (supplied : List Attributes) :
    (Draft.ofEdits (supplied.map Edit.fill)).blueprint.embed.attributes =
      supplied.foldl .fillFrom {} := by
  rw [Draft.ofEdits, foldl_apply_fill]
  exact Attributes.empty_fillFrom _

end

/-! ## One document -/

section

variable {setting : Setting} {names : List Text} {group dir : Path} {lines fewer : List Text}
variable {load fetch : Text → Run ParseError (Option Template)} {kind : DocumentKind} {now : Text}

/-- **One level**: if the templates of the lines are loaded as before, and the group supplies what
its templates do together, then the edits come to the same. -/
theorem Groups.exists_edits (h : Groups setting names group dir lines fewer)
    (hload : ∀ line ∈ lines, ∀ name template, (Line.ofSource line).template? = some name →
      (load name).result = .ok template → (fetch name).result = .ok template)
    (hgroup : ∀ run name supplied, run ⊆ lines → AskFor names run → Supplies load names supplied →
      setting.config.templatePath dir name = group →
      Path.normalize (Setting.dirOf group) = Path.normalize dir →
      (fetch name).result = .ok (some ⟨group, supplied.foldl .fillFrom {}⟩))
    {edits : List Edit} (hedits : List.Forall₂ (Makes load kind now) lines edits) :
    ∃ others, List.Forall₂ (Makes fetch kind now) fewer others ∧
      ∀ draft : Draft, others.foldl Draft.apply draft = edits.foldl Draft.apply draft := by
  induction h generalizing edits with
  | done =>
    cases hedits
    exact ⟨[], .nil, fun _ ↦ rfl⟩
  | keep line _ ih =>
    cases hedits with
    | cons hfirst hrest =>
      obtain ⟨hline, hlines⟩ := List.forall_mem_cons.mp hload
      obtain ⟨others, hothers, hsame⟩ := ih hlines
        (fun run name supplied hrun ↦ hgroup run name supplied (List.subset_cons_of_subset _ hrun))
        hrest
      exact ⟨_, .cons (hfirst.of_load hline) hothers, fun draft ↦ hsame _⟩
  | @group run lines fewer line name asks asked path home _ ih =>
    obtain ⟨first, last, rfl, hfirst, hlast⟩ : ∃ first last, edits = first ++ last ∧
        List.Forall₂ (Makes load kind now) run first ∧
        List.Forall₂ (Makes load kind now) lines last :=
      ⟨_, _, (List.take_append_drop run.length edits).symm,
        (List.forall₂_take_append _ _ _ hedits.flip).flip,
        (List.forall₂_drop_append _ _ _ hedits.flip).flip⟩
    obtain ⟨supplied, hsupplies, rfl⟩ := (forall₂_makes_iff asks).mp hfirst
    obtain ⟨others, hothers, hsame⟩ := ih
      (fun line hline ↦ hload line (List.mem_append_right run hline))
      (fun run' name supplied hrun ↦
        hgroup run' name supplied (List.subset_append_of_subset_right run hrun))
      hlast
    have hfetch := hgroup run name supplied (List.subset_append_left _ _) asks hsupplies path home
    refine ⟨.fill (supplied.foldl .fillFrom {}) :: others, .cons ?_ hothers, fun draft ↦ ?_⟩
    · exact (makes_iff_of_template?_eq_some asked).mpr ⟨_, hfetch, rfl⟩
    · rw [List.foldl_cons, hsame, List.foldl_append, foldl_apply_fill]

end

/-! ## Two parses side by side -/

/-- What a parse with its chain and its room has in common with a parse after the grouping.  The
group has room as long as it is not open, and it is open only if one of its templates is. -/
structure Abreast (setting : Setting) (names : List Text) (group : Path) (room : Nat)
    (chain : List Path) (wider : Nat) (longer : List Path) : Prop where
  opened : ∀ path ∈ longer, path ∈ chain ∨ path = group
  spare : (group ∉ longer ∧ room < wider) ∨ (room ≤ wider ∧
    ∃ name ∈ names, setting.config.templatePath (Setting.dirOf group) name ∈ chain)

namespace Abreast

variable {setting : Setting} {names : List Text} {group target : Path} {room wider : Nat}
variable {chain longer : List Path}

theorem room_le (h : Abreast setting names group room chain wider longer) : room ≤ wider := by
  rcases h.spare with ⟨-, hroom⟩ | ⟨hroom, -⟩ <;> omega

theorem fresh (h : Abreast setting names group room chain wider longer) (hchain : target ∉ chain)
    (hgroup : target ≠ group) : target ∉ longer := by
  intro hmem
  rcases h.opened target hmem with hopen | heq
  · exact hchain hopen
  · exact hgroup heq

/-- The first parse opens a template. -/
theorem concat (h : Abreast setting names group room chain wider longer) (target : Path) :
    Abreast setting names group room (chain ++ [target]) wider longer where
  opened path hpath := (h.opened path hpath).imp_left (List.mem_append_left _)
  spare := h.spare.imp_right fun ⟨hroom, name, hname, hopen⟩ ↦
    ⟨hroom, name, hname, List.mem_append_left _ hopen⟩

/-- The second parse opens the same template, and both have room for one less. -/
theorem follow (h : Abreast setting names group (room + 1) chain (wider + 1) longer)
    (hopen : target ∈ chain) (hgroup : target ≠ group) :
    Abreast setting names group room chain wider (longer ++ [target]) where
  opened path hpath := by
    rcases List.mem_append.mp hpath with hmem | hmem
    · exact h.opened path hmem
    · rw [List.mem_singleton.mp hmem]
      exact .inl hopen
  spare := by
    rcases h.spare with ⟨hclosed, hroom⟩ | ⟨hroom, hinside⟩
    · have hstill : group ∉ longer ++ [target] := by simp [hclosed, hgroup.symm]
      exact .inl ⟨hstill, Nat.lt_of_succ_lt_succ hroom⟩
    · exact .inr ⟨Nat.le_of_succ_le_succ hroom, hinside⟩

/-- The second parse opens the group as well, and then both open one of its templates. -/
theorem open_group {wide : Nat} (h : Abreast setting names group room chain wider longer)
    (hroom : room ≤ wide) {name : Text} (hname : name ∈ names)
    (hpath : setting.config.templatePath (Setting.dirOf group) name = target) :
    Abreast setting names group room (chain ++ [target]) wide (longer ++ [group]) where
  opened path hpath := by
    rcases List.mem_append.mp hpath with hmem | hmem
    · exact (h.opened path hmem).imp_left (List.mem_append_left _)
    · exact .inr (List.mem_singleton.mp hmem)
  spare := .inr ⟨hroom, name, hname, List.mem_append_right _ (List.mem_singleton.mpr hpath)⟩

end Abreast

/-! ## All levels -/

section

variable {setting : Setting} {names : List Text} {group : Path} {grouped : Source} {limit : Nat}

/-- With this much room, documents are the same after the grouping, wherever they are. -/
def KeepsDocuments (setting : Setting) (names : List Text) (group : Path) (grouped : Source)
    (limit room : Nat) : Prop :=
  ∀ {chain longer : List Path} {wider : Nat}, Abreast setting names group room chain wider longer →
    ∀ {kind : DocumentKind} {dir : Path} {lines fewer : List Text} {document : Blueprint},
    Groups setting names group dir lines fewer → ¬setting.Reaches dir lines group →
    (documentOfLines (loadTemplate setting room chain dir) kind setting.now lines).result
      = .ok document →
    (documentOfLines (loadTemplate ((setting.withSource grouped).withLimit limit) wider longer dir)
      kind setting.now fewer).result = .ok document

variable {room wider : Nat} {chain longer : List Path} {dir target : Path} {name : Text}

/-- A template is the same after the grouping if documents with less room are. -/
theorem loadTemplate_grouped (hfiles : GroupsInFiles setting names group grouped)
    (hbelow : ∀ below < room, KeepsDocuments setting names group grouped limit below)
    (hpath : setting.config.templatePath dir name = target)
    (hleads : ¬setting.Leads target group) (hfresh : target ∉ chain → target ∉ longer)
    (habreast : Abreast setting names group room (chain ++ [target]) wider longer)
    {template : Option Template}
    (h : (loadTemplate setting room chain dir name).result = .ok template) :
    (loadTemplate ((setting.withSource grouped).withLimit limit) wider longer dir name).result
      = .ok template := by
  have hgroup : target ≠ group := fun heq ↦ hleads (.inl heq.symm)
  have hnormal : Path.normalize target = target := by
    rw [← hpath]
    exact Path.normalize_normalize _
  have hwide : ((setting.withSource grouped).withLimit limit).config.templatePath dir name
      = target := hpath
  have hroom := habreast.room_le
  have hloads := loadTemplate_eq_iff.mp h
  rw [hpath] at hloads
  rw [loadTemplate_eq_iff, hwide]
  cases hloads with
  | missing fresh read missing =>
    obtain ⟨wide, rfl⟩ := Nat.exists_eq_add_of_le' (Nat.le_of_add_left_le hroom)
    exact .missing (hfresh fresh) (hfiles.failure _ _ hnormal hgroup read) missing
  | @loaded below file document fresh read parsed =>
    obtain ⟨wide, rfl⟩ := Nat.exists_eq_add_of_le' (Nat.le_of_add_left_le hroom)
    obtain ⟨fewer, hfewer, hgroups⟩ := hfiles.file target file hnormal hgroup read
    have hnew : ¬setting.Reaches (Setting.dirOf target) file group :=
      fun hreaches ↦ hleads (.inr ⟨file, read, hreaches⟩)
    have hopen : target ∈ chain ++ [target] := List.mem_append_right _ (List.mem_singleton_self _)
    have hdocument := hbelow below (Nat.lt_succ_self below) (habreast.follow hopen hgroup) hgroups
      hnew parsed
    exact .loaded (hfresh fresh) hfewer hdocument

/-- **The group supplies what its templates do**, if documents with less room are the same.  If the
group is open already, then so is one of the templates of the run, which cannot be. -/
theorem loadTemplate_group (hfiles : GroupsInFiles setting names group grouped)
    (hbelow : ∀ below < room, KeepsDocuments setting names group grouped limit below)
    (habreast : Abreast setting names group room chain wider longer)
    (hpath : setting.config.templatePath dir name = group)
    (hhome : Path.normalize (Setting.dirOf group) = Path.normalize dir)
    (hleads : ∀ other ∈ names, ¬setting.Leads (setting.config.templatePath dir other) group)
    {supplied : List Attributes}
    (hsupplies : Supplies (loadTemplate setting room chain dir) names supplied) :
    (loadTemplate ((setting.withSource grouped).withLimit limit) wider longer dir name).result
      = .ok (some ⟨group, supplied.foldl .fillFrom {}⟩) := by
  have hsame (other : Text) : setting.config.templatePath (Setting.dirOf group) other =
      setting.config.templatePath dir other := setting.config.templatePath_congr hhome other
  have hspare : group ∉ longer ∧ room < wider := by
    rcases habreast.spare with hspare | ⟨-, other, hother, hopen⟩
    · exact hspare
    obtain ⟨template, hload⟩ := hsupplies.exists_load hother
    rw [loadTemplate_of_mem (hsame other).symm hopen] at hload
    cases hload
  obtain ⟨hclosed, hroom⟩ := hspare
  obtain ⟨wide, rfl⟩ := Nat.exists_eq_add_of_le' (Nat.succ_le_of_lt (Nat.zero_lt_of_lt hroom))
  obtain ⟨run, hread, hasks⟩ := hfiles.together
  have hinside : Supplies (loadTemplate ((setting.withSource grouped).withLimit limit) wide
      (longer ++ [group]) (Setting.dirOf group)) names supplied := by
    refine hsupplies.of_load fun other hother template hload ↦ ?_
    have hne : setting.config.templatePath dir other ≠ group :=
      fun heq ↦ hleads other hother (.inl heq.symm)
    rw [loadTemplate_congr _ _ _ hhome]
    refine loadTemplate_grouped hfiles hbelow rfl (hleads other hother) (fun hchain ↦ ?_)
      (habreast.open_group (Nat.le_of_lt_succ hroom) hother (hsame other)) hload
    have hfresh := habreast.fresh hchain hne
    simp [hfresh, hne]
  have hdocument : (((setting.withSource grouped).withLimit limit).templateDocument wide longer
      group run).result = .ok (Draft.ofEdits (supplied.map .fill)).blueprint :=
    documentOfLines_eq_ok_iff.mpr
      ⟨_, (forall₂_makes_iff hasks).mpr ⟨supplied, hinside, rfl⟩, rfl⟩
  rw [loadTemplate_eq_iff, ← attributes_ofEdits_fill]
  have hwide : ((setting.withSource grouped).withLimit limit).config.templatePath dir name
      = group := hpath
  rw [hwide]
  exact .loaded hclosed hread hdocument

/-- **All levels**: documents are the same after the grouping.  The induction is on the room. -/
theorem keepsDocuments (hfiles : GroupsInFiles setting names group grouped) (limit room : Nat) :
    KeepsDocuments setting names group grouped limit room := by
  induction room using Nat.strongRecOn with
  | ind room ih =>
    intro chain longer wider habreast kind dir lines fewer document hgroups hnew h
    obtain ⟨edits, hedits, rfl⟩ := documentOfLines_eq_ok_iff.mp h
    have hleads {line name : Text} (hline : line ∈ lines)
        (hname : (Line.ofSource line).template? = some name) :
        ¬setting.Leads (setting.config.templatePath dir name) group :=
      fun hleads ↦ hnew (hleads.reaches hline hname)
    have hload (line : Text) (hline : line ∈ lines) (name : Text) (template : Option Template)
        (hname : (Line.ofSource line).template? = some name)
        (hload : (loadTemplate setting room chain dir name).result = .ok template) :
        (loadTemplate ((setting.withSource grouped).withLimit limit) wider longer dir name).result
          = .ok template := by
      have hne : setting.config.templatePath dir name ≠ group :=
        fun heq ↦ hleads hline hname (.inl heq.symm)
      exact loadTemplate_grouped hfiles ih rfl (hleads hline hname)
        (fun hchain ↦ habreast.fresh hchain hne) (habreast.concat _) hload
    have hgroup (run : List Text) (name : Text) (supplied : List Attributes) (hrun : run ⊆ lines)
        (hasks : AskFor names run)
        (hsupplies : Supplies (loadTemplate setting room chain dir) names supplied)
        (hpath : setting.config.templatePath dir name = group)
        (hhome : Path.normalize (Setting.dirOf group) = Path.normalize dir) :
        (loadTemplate ((setting.withSource grouped).withLimit limit) wider longer dir name).result
          = .ok (some ⟨group, supplied.foldl .fillFrom {}⟩) := by
      refine loadTemplate_group hfiles ih habreast hpath hhome (fun other hother ↦ ?_) hsupplies
      obtain ⟨line, hline, hother⟩ := exists_mem_of_forall₂ hasks hother
      exact hleads (hrun hline) hother
    obtain ⟨others, hothers, hsame⟩ := hgroups.exists_edits hload hgroup hedits
    exact documentOfLines_eq_ok_iff.mpr ⟨others, hothers, congrArg _ (hsame {})⟩

end

/-- **How inclusions are grouped does not matter.**  To fill in defaults is associative and
idempotent, and the record with nothing set is its unit on both sides.  So let runs of lines that
ask for templates be moved to a new template in the same directory, in a document and in any number
of files, and let nothing ask for that template before.  If the document is accepted, then it is
accepted with room for one more template after the grouping, and it is the same. -/
theorem parseLines_grouped :
    ((∀ a b c : Attributes, (a.fillFrom b).fillFrom c = a.fillFrom (b.fillFrom c)) ∧
      ∀ a : Attributes, a.fillFrom a = a ∧ a.fillFrom {} = a ∧ ({} : Attributes).fillFrom a = a) ∧
    ∀ {setting : Setting} {names : List Text} {group : Path} {grouped : Source},
      GroupsInFiles setting names group grouped →
      ∀ {kind : DocumentKind} {dir : Path} {lines fewer : List Text} {document : Blueprint},
      Groups setting names group dir lines fewer → ¬setting.Reaches dir lines group →
      (setting.parseLines kind dir lines).result = .ok document →
      (((setting.withSource grouped).withLimit (setting.config.maxDepth + 1)).parseLines kind dir
        fewer).result = .ok document := by
  refine ⟨⟨Attributes.fillFrom_assoc, fun a ↦ ⟨a.fillFrom_self, a.fillFrom_empty,
    a.empty_fillFrom⟩⟩, fun {setting names group grouped} hfiles ↦ ?_⟩
  intro kind dir lines fewer document hgroups hnew h
  have hstart : Abreast setting names group setting.config.maxDepth []
      (setting.config.maxDepth + 1) [] :=
    ⟨List.forall_mem_nil _, .inl ⟨List.not_mem_nil, Nat.lt_succ_self _⟩⟩
  exact keepsDocuments hfiles _ _ hstart hgroups hnew h

/-! ## Files in memory -/

/-- A template whose file has a plain name is in the directory that asks for it. -/
theorem Config.normalize_dirOf_templatePath (config : Config) (dir : Path) {name : Text}
    (hname : (Path.Component.name (config.templateFileName name)).Proper) :
    Path.normalize (Setting.dirOf (config.templatePath dir name)) = Path.normalize dir := by
  obtain ⟨home, hhome, hnormal⟩ := Path.exists_parent_normalize_join dir hname
  rw [Setting.dirOf, templatePath, hhome]
  exact hnormal

section

variable {setting : Setting} {files : MemoryFiles} {names : List Text} {group : Path}

/-- The group is put up, and no other file changes. -/
theorem groupsInFiles_insert (hsource : setting.source = files.source)
    (hgroup : Path.normalize group = group) {content : Text}
    (hasks : AskFor names (Text.lines content)) :
    GroupsInFiles setting names group (files.insert group content).source where
  together := by
    refine ⟨_, ?_, hasks⟩
    rw [MemoryFiles.readLines_insert, if_pos rfl]
  file path file hnormal hne hread := by
    rw [hsource] at hread
    refine ⟨file, ?_, .refl _ _ _ _ _⟩
    rwa [MemoryFiles.readLines_insert, if_neg (by rwa [hnormal, hgroup])]
  failure path failure hnormal hne hread := by
    rw [hsource] at hread
    rwa [MemoryFiles.readLines_insert, if_neg (by rwa [hnormal, hgroup])]

/-- Runs of lines are grouped in one more file. -/
theorem GroupsInFiles.insert {edited : MemoryFiles}
    (h : GroupsInFiles setting names group edited.source) (hsource : setting.source = files.source)
    {path : Path} {file : List Text} {content : Text}
    (hpath : Path.normalize path ≠ Path.normalize group)
    (hread : files.source.readLines path = .ok file)
    (hgroups : Groups setting names group (Setting.dirOf (Path.normalize path)) file
      (Text.lines content)) :
    GroupsInFiles setting names group (edited.insert path content).source where
  together := by
    obtain ⟨run, hrun, hasks⟩ := h.together
    refine ⟨run, ?_, hasks⟩
    rwa [MemoryFiles.readLines_insert, if_neg hpath.symm]
  file other lines hnormal hne hother := by
    rw [MemoryFiles.readLines_insert]
    split
    · next hsame =>
      rw [hsource] at hother
      have hlines := MemoryFiles.readLines_of_normalize_eq hsame hread
      obtain rfl := Except.ok.inj (hother.symm.trans hlines)
      exact ⟨_, rfl, by rwa [← hnormal, hsame]⟩
    · exact h.file other lines hnormal hne hother
  failure other failure hnormal hne hother := by
    rw [MemoryFiles.readLines_insert, if_neg, h.failure other failure hnormal hne hother]
    intro hsame
    rw [hsource, MemoryFiles.readLines_of_normalize_eq hsame hread] at hother
    cases hother

end

/-- A card with a letterhead for its template, and the letterhead asks for three more, one of which
does not exist. -/
def letters : MemoryFiles where
  entries := [
    ("in/head.template.dem", "@template ink\n@template seal\n@template gone\n@author A".toList),
    ("in/ink.template.dem", "%1\n@url u".toList),
    ("in/seal.template.dem", "%2\n@thumbnail s".toList)]

/-- The letters, with a limit that is just enough for them. -/
def office : Setting where
  source := letters.source
  config := { maxDepth := 2 }

/-- The letters after the grouping. -/
def bundled : MemoryFiles :=
  (letters.insert "in/all.template.dem" "@template ink\n@template seal\n@template gone").insert
    "in/head.template.dem" "@template all\n@author A"

/-- The same three lines are grouped in the letterhead and in a document that asks for it first. -/
theorem parseLines_grouped_bundled :
    GroupsInFiles office ["ink", "seal", "gone"] "in/all.template.dem" bundled.source ∧
    Groups office ["ink", "seal", "gone"] "in/all.template.dem" "in"
      ["@template head".toList, "@template ink".toList, "@template seal".toList,
        "@template gone".toList, "# T".toList]
      ["@template head".toList, "@template all".toList, "# T".toList] ∧
    (((office.withSource bundled.source).withLimit 3).parseLines .embed "in"
      ["@template head".toList, "@template all".toList, "# T".toList]).result
      = .ok { embed := { title := "T".toList, attributes := {
          color := 0x010101, url := "u".toList, thumbnail := "s".toList,
          authorName := "A".toList } } } := by
  have hasks : AskFor ["ink", "seal", "gone"]
      ["@template ink".toList, "@template seal".toList, "@template gone".toList] :=
    .cons (by decide +kernel) (.cons (by decide +kernel) (.cons (by decide +kernel) .nil))
  have hall : (Line.ofSource "@template all".toList).template? = some "all".toList := by
    decide +kernel
  have hpath : office.config.templatePath "in" "all" = "in/all.template.dem".toList := by
    decide +kernel
  have hhome : Path.normalize (Setting.dirOf "in/all.template.dem") = Path.normalize "in" := by
    rw [← hpath]
    exact office.config.normalize_dirOf_templatePath "in"
      ⟨by decide, by decide, by decide, by decide⟩
  have hhead : letters.source.readLines "in/head.template.dem"
      = .ok ["@template ink".toList, "@template seal".toList, "@template gone".toList,
        "@author A".toList] := by
    decide +kernel
  have hfiles : GroupsInFiles office ["ink", "seal", "gone"] "in/all.template.dem"
      bundled.source := by
    refine (groupsInFiles_insert rfl (by decide +kernel) ?_).insert rfl (by decide +kernel) hhead ?_
    · have hcontent : Text.lines "@template ink\n@template seal\n@template gone" =
          ["@template ink".toList, "@template seal".toList, "@template gone".toList] := by
        decide +kernel
      rwa [hcontent]
    · have hcontent : Text.lines "@template all\n@author A" =
          ["@template all".toList, "@author A".toList] := by
        decide +kernel
      rw [hcontent]
      exact .group hasks hall hpath hhome (.keep _ .done)
  have hlines : Groups office ["ink", "seal", "gone"] "in/all.template.dem" "in"
      ["@template head".toList, "@template ink".toList, "@template seal".toList,
        "@template gone".toList, "# T".toList]
      ["@template head".toList, "@template all".toList, "# T".toList] :=
    Groups.append ["@template head".toList] ["# T".toList] hasks hall hpath hhome
  have hnew : ¬office.Reaches "in" ["@template head".toList, "@template ink".toList,
      "@template seal".toList, "@template gone".toList, "# T".toList] "in/all.template.dem" := by
    intro hreaches
    have hnone : ∀ entry ∈ letters.entries, "in/all.template.dem".toList ∉
        office.config.targets (Setting.dirOf entry.1) (Text.lines entry.2) := by
      decide +kernel
    rcases hreaches.mem_targets rfl with hline | ⟨entry, hentry, hline⟩
    · exact absurd hline (by decide +kernel)
    · exact hnone entry hentry hline
  exact ⟨hfiles, hlines, parseLines_grouped.2 hfiles hlines hnew (by decide +kernel)⟩

end ChatEmbed

import ChatEmbed.Proofs.Paths
import ChatEmbed.Proofs.Templates
import Mathlib.Data.List.Nodup

/-!
# When the inclusion of templates succeeds

Loading templates is a depth-first search that remembers nothing but the templates it is inside of.
It gives up on a template that it is inside of already, and on one that it is too deep to look at.
Whether it succeeds is a question about the files alone, and this file answers it without the
search:

* `Walk` is a sequence of templates, each of which the one before asks for.  Only the last one need
  not exist.
* The search succeeds exactly when no walk comes to the same template twice or is longer than the
  limit, and if it fails then with a walk that does one of the two.

In particular a template that is reached in two ways is no cycle, and a cycle is found however its
templates are spelled, since the templates of a walk are named by their normal forms.
-/

set_option autoImplicit false

namespace ChatEmbed

/-! ## Walks -/

/-- The paths of the templates that the lines of a directory ask for. -/
def Config.targets (config : Config) (dir : Path) (lines : List Text) : List Path :=
  lines.filterMap fun line ↦ (Line.ofSource line).template?.map (config.templatePath dir)

theorem Config.mem_targets {config : Config} {dir : Path} {lines : List Text} {target : Path} :
    target ∈ config.targets dir lines ↔
      ∃ line ∈ lines, ∃ name, (Line.ofSource line).template? = some name ∧
        config.templatePath dir name = target := by
  rw [targets, List.mem_filterMap]
  simp only [Option.map_eq_some_iff]

theorem Config.normalize_eq_of_mem_targets {config : Config} {dir : Path} {lines : List Text}
    {target : Path} (h : target ∈ config.targets dir lines) : Path.normalize target = target := by
  obtain ⟨_, _, _, _, rfl⟩ := Config.mem_targets.mp h
  exact Path.normalize_normalize _

/-- A sequence of templates that starts with one the lines ask for and goes on from the lines of
each to one that these ask for.  It can only go on from a template that exists. -/
inductive Walk (setting : Setting) : Path → List Text → List Path → Prop
  | stop {dir : Path} {lines : List Text} {target : Path}
      (asked : target ∈ setting.config.targets dir lines) : Walk setting dir lines [target]
  | go {dir : Path} {lines : List Text} {target : Path} {file : List Text} {rest : List Path}
      (asked : target ∈ setting.config.targets dir lines)
      (read : setting.source.readLines target = .ok file)
      (onward : Walk setting (Setting.dirOf target) file rest) :
      Walk setting dir lines (target :: rest)

/-- The templates of a walk go by their normal forms, however the lines spell them. -/
theorem Walk.normalize_eq {setting : Setting} {dir : Path} {lines : List Text} {walk : List Path}
    (h : Walk setting dir lines walk) {path : Path} (hpath : path ∈ walk) :
    Path.normalize path = path := by
  induction h with
  | stop asked =>
    rw [List.mem_singleton.mp hpath]
    exact Config.normalize_eq_of_mem_targets asked
  | go asked _ _ ih =>
    rcases List.mem_cons.mp hpath with rfl | hrest
    · exact Config.normalize_eq_of_mem_targets asked
    · exact ih hrest

/-! ## What is taken for granted -/

/-- The files of a source can be read, all that are there. -/
def Source.Readable (source : Source) : Prop :=
  ∀ ⦃path failure⦄, source.readLines path = .error failure → failure.isMissing = true

/-- The line is accepted as a document of its own. -/
def Setting.Accepts (setting : Setting) (kind : DocumentKind) (dir : Path) (line : Text) : Prop :=
  ∃ document, (setting.parseLines kind dir [line]).result = .ok document

/-- Nothing but an inclusion can be at fault: all other lines are accepted on their own, in the
document and in every file that a walk comes to. -/
structure OthersAccepted (setting : Setting) (kind : DocumentKind) (dir : Path)
    (lines : List Text) : Prop where
  document : ∀ line ∈ lines, (Line.ofSource line).template? = none → setting.Accepts kind dir line
  templates : ∀ walk path file, Walk setting dir lines (walk ++ [path]) →
    setting.source.readLines path = .ok file →
    ∀ line ∈ file, (Line.ofSource line).template? = none →
      setting.Accepts .template (Setting.dirOf path) line

/-- What is granted for a document is granted for the templates that it asks for. -/
theorem OthersAccepted.below {setting : Setting} {kind : DocumentKind} {dir : Path}
    {lines : List Text} (h : OthersAccepted setting kind dir lines) {target : Path}
    {file : List Text} (asked : target ∈ setting.config.targets dir lines)
    (read : setting.source.readLines target = .ok file) :
    OthersAccepted setting .template (Setting.dirOf target) file where
  document := h.templates [] target file (.stop asked) read
  templates walk path inner hwalk hread :=
    h.templates (target :: walk) path inner (.go asked read hwalk) hread

/-- A line that asks for no template is accepted for what it is, wherever the templates are. -/
theorem Setting.accepts_iff {setting : Setting} {kind : DocumentKind} {dir : Path} {line : Text}
    (htemplate : (Line.ofSource line).template? = none) :
    setting.Accepts kind dir line ↔
      ∃ edit, (Line.ofSource line).Asks kind setting.now (.edit edit) := by
  rw [Accepts, parseLines, exists_documentOfLines_iff, List.forall_mem_singleton]
  simp only [makes_iff_of_template?_eq_none htemplate]

/-! ## One level of the search -/

section

variable {setting : Setting} {kind : DocumentKind} {dir : Path} {lines : List Text}
variable {chain : List Path} {room : Nat}

/-- If nothing else can be at fault, a document is accepted when its templates can be loaded. -/
theorem OthersAccepted.exists_document_iff (h : OthersAccepted setting kind dir lines)
    (load : Text → Run ParseError (Option Template)) :
    (∃ document, (documentOfLines load kind setting.now lines).result = .ok document) ↔
      ∀ line ∈ lines, ∀ name, (Line.ofSource line).template? = some name →
        ∃ template, (load name).result = .ok template := by
  rw [exists_documentOfLines_iff]
  constructor
  · intro hmakes line hline name hname
    obtain ⟨edit, hedit⟩ := hmakes line hline
    obtain ⟨template, hload, -⟩ := (makes_iff_of_template?_eq_some hname).mp hedit
    exact ⟨template, hload⟩
  · intro hloads line hline
    cases htemplate : (Line.ofSource line).template? with
    | none =>
      obtain ⟨edit, hasks⟩ := (Setting.accepts_iff htemplate).mp (h.document line hline htemplate)
      exact ⟨edit, (makes_iff_of_template?_eq_none htemplate).mpr hasks⟩
    | some name =>
      obtain ⟨template, hload⟩ := hloads line hline name htemplate
      exact ⟨_, (makes_iff_of_template?_eq_some htemplate).mpr ⟨template, hload, rfl⟩⟩

/-- If nothing else can be at fault, a document fails when a template it asks for does, and with the
same error. -/
theorem OthersAccepted.error_of_documentOfLines (h : OthersAccepted setting kind dir lines)
    {load : Text → Run ParseError (Option Template)} {error : ParseError}
    (herror : (documentOfLines load kind setting.now lines).result = .error error) :
    ∃ line ∈ lines, ∃ name, (Line.ofSource line).template? = some name ∧
      (load name).result = .error error := by
  obtain ⟨before, line, after, rfl, -, hline⟩ :=
    lineEdits_eq_error_iff.mp (documentOfLines_eq_error_iff.mp herror)
  have hmem : line ∈ before ++ line :: after := List.mem_append_right _ List.mem_cons_self
  rcases lineEdit_eq_error_iff.mp hline with ⟨fault, hfault, -⟩ | ⟨name, hname, hload⟩
  · -- a line at fault asks for no template, so it is among those taken for granted
    have htemplate := template?_eq_none_of_read_eq_error hfault
    obtain ⟨edit, hasks⟩ := (Setting.accepts_iff htemplate).mp (h.document line hmem htemplate)
    rw [Directive.read, ← Line.ofSource, ofLine_eq_ok_iff.mpr hasks] at hfault
    cases hfault
  · exact ⟨line, hmem, name, hname, hload⟩

/-- A template can be loaded if it is not open, there is room, and its lines are accepted, which it
need not have. -/
theorem exists_loadTemplate_iff (hsource : setting.source.Readable) {name : Text} :
    (∃ template, (loadTemplate setting room chain dir name).result = .ok template) ↔
      setting.config.templatePath dir name ∉ chain ∧ ∃ below, room = below + 1 ∧
        ∀ file, setting.source.readLines (setting.config.templatePath dir name) = .ok file →
          ∃ document, (setting.templateDocument below chain
            (setting.config.templatePath dir name) file).result = .ok document := by
  simp only [loadTemplate_eq_iff]
  constructor
  · rintro ⟨template, hloads⟩
    cases hloads with
    | missing fresh read _ =>
      exact ⟨fresh, _, rfl, fun file hfile ↦ by rw [hfile] at read; cases read⟩
    | @loaded _ _ document fresh read parsed =>
      refine ⟨fresh, _, rfl, fun file hfile ↦ ?_⟩
      rw [hfile] at read
      cases read
      exact ⟨document, parsed⟩
  · rintro ⟨fresh, below, rfl, hfile⟩
    cases hread : setting.source.readLines (setting.config.templatePath dir name) with
    | error failure => exact ⟨_, .missing fresh hread (hsource hread)⟩
    | ok file =>
      obtain ⟨document, hdocument⟩ := hfile file hread
      exact ⟨_, .loaded fresh hread hdocument⟩

/-- One level of the search, in terms of the templates that the lines ask for. -/
theorem OthersAccepted.exists_document_iff_targets
    (hsource : setting.source.Readable) (h : OthersAccepted setting kind dir lines) :
    (∃ document, (documentOfLines (loadTemplate setting room chain dir) kind setting.now
      lines).result = .ok document) ↔
      ∀ target ∈ setting.config.targets dir lines, target ∉ chain ∧ ∃ below, room = below + 1 ∧
        ∀ file, setting.source.readLines target = .ok file →
          ∃ document, (setting.templateDocument below chain target file).result = .ok document := by
  rw [h.exists_document_iff]
  simp only [exists_loadTemplate_iff hsource]
  constructor
  · intro hlines target htarget
    obtain ⟨line, hline, name, hname, rfl⟩ := Config.mem_targets.mp htarget
    exact hlines line hline name hname
  · intro htargets line hline name hname
    exact htargets _ (Config.mem_targets.mpr ⟨line, hline, name, hname, rfl⟩)

/-! ## The search as a whole -/

theorem nodup_append_singleton {α : Type} {l : List α} {a : α} :
    (l ++ [a]).Nodup ↔ a ∉ l ∧ l.Nodup := by
  rw [← List.concat_eq_append, List.nodup_concat]

/-- Of lines that are accepted, everything they ask for has been loaded. -/
theorem exists_load_of_mem_targets {load : Text → Run ParseError (Option Template)}
    {document : Blueprint} {target : Path}
    (h : (documentOfLines load kind setting.now lines).result = .ok document)
    (asked : target ∈ setting.config.targets dir lines) :
    ∃ name, setting.config.templatePath dir name = target ∧
      ∃ template, (load name).result = .ok template := by
  obtain ⟨line, hline, name, hname, rfl⟩ := Config.mem_targets.mp asked
  obtain ⟨edit, hedit⟩ := exists_documentOfLines_iff.mp ⟨document, h⟩ line hline
  obtain ⟨template, hload, -⟩ := (makes_iff_of_template?_eq_some hname).mp hedit
  exact ⟨name, rfl, template, hload⟩

/-- **Lines that are accepted have been searched to the end**: every walk goes on from the chain
without coming to a template twice, and is no longer than there is room. -/
theorem Walk.fits_of_ok {walk : List Path} (hwalk : Walk setting dir lines walk)
    (hchain : chain.Nodup) {document : Blueprint}
    (h : (documentOfLines (loadTemplate setting room chain dir) kind setting.now lines).result
      = .ok document) : (chain ++ walk).Nodup ∧ walk.length ≤ room := by
  induction hwalk generalizing chain room kind document with
  | stop asked =>
    obtain ⟨name, rfl, template, hload⟩ := exists_load_of_mem_targets h asked
    cases loadTemplate_eq_iff.mp hload with
    | missing fresh | loaded fresh =>
      exact ⟨nodup_append_singleton.mpr ⟨fresh, hchain⟩, Nat.le_add_left 1 _⟩
  | go asked read onward ih =>
    obtain ⟨name, rfl, template, hload⟩ := exists_load_of_mem_targets h asked
    have hloads := loadTemplate_eq_iff.mp hload
    obtain ⟨below, inner, rfl, hinner⟩ := hloads.exists_document read
    obtain ⟨hnodup, hlength⟩ := ih (nodup_append_singleton.mpr ⟨hloads.not_mem, hchain⟩) hinner
    rw [List.append_cons]
    exact ⟨hnodup, Nat.succ_le_succ hlength⟩

/-- **When the search succeeds**, below the templates of the chain: every walk goes on from there
without coming to a template twice, and is no longer than there is room. -/
theorem OthersAccepted.exists_document_iff_walks
    (hsource : setting.source.Readable) (h : OthersAccepted setting kind dir lines)
    (hchain : chain.Nodup) :
    (∃ document, (documentOfLines (loadTemplate setting room chain dir) kind setting.now
      lines).result = .ok document) ↔
      ∀ walk, Walk setting dir lines walk → (chain ++ walk).Nodup ∧ walk.length ≤ room := by
  constructor
  · rintro ⟨document, hdocument⟩ walk hwalk
    exact hwalk.fits_of_ok hchain hdocument
  intro hwalks
  induction room using Nat.strongRecOn generalizing chain dir kind lines with
  | ind room ih =>
    rw [h.exists_document_iff_targets hsource]
    intro target asked
    obtain ⟨hnodup, hlength⟩ := hwalks _ (.stop asked)
    obtain ⟨below, rfl⟩ := Nat.exists_eq_add_of_le' hlength
    refine ⟨(nodup_append_singleton.mp hnodup).1, below, rfl, fun file read ↦ ?_⟩
    refine ih below (Nat.lt_succ_self _) (h.below asked read) hnodup fun walk hwalk ↦ ?_
    have hgo := hwalks _ (.go asked read hwalk)
    rw [List.append_cons] at hgo
    exact ⟨hgo.1, Nat.le_of_succ_le_succ hgo.2⟩

/-- A walk explains an error: it comes to a template twice, or it is too long, and its last template
is the one that the error is about. -/
def Walk.Explains (setting : Setting) (chain : List Path) (room : Nat) (walk : List Path)
    (error : ParseError) : Prop :=
  (¬(chain ++ walk).Nodup ∧ error.root = .cyclic (chain ++ walk)) ∨
    (room < walk.length ∧ ∃ path, walk.getLast? = some path ∧
      error.root = .tooDeep path setting.config.maxDepth)

/-- **Why the search fails**: with the error that some walk explains. -/
theorem OthersAccepted.exists_walk_of_error
    (hsource : setting.source.Readable) (h : OthersAccepted setting kind dir lines)
    {error : ParseError}
    (herror : (documentOfLines (loadTemplate setting room chain dir) kind setting.now
      lines).result = .error error) :
    ∃ walk, Walk setting dir lines walk ∧ Walk.Explains setting chain room walk error := by
  induction room using Nat.strongRecOn generalizing chain dir kind lines error with
  | ind room ih =>
    obtain ⟨line, hline, name, hname, hload⟩ := h.error_of_documentOfLines herror
    have asked : setting.config.templatePath dir name ∈ setting.config.targets dir lines :=
      Config.mem_targets.mpr ⟨line, hline, name, hname, rfl⟩
    generalize hpath : setting.config.templatePath dir name = path at asked
    have hloads := loadTemplate_eq_iff.mp hload
    rw [hpath] at hloads
    cases hloads with
    | cyclic opened =>
      refine ⟨_, .stop asked, .inl ⟨fun hnodup ↦ ?_, rfl⟩⟩
      exact (nodup_append_singleton.mp hnodup).1 opened
    | tooDeep fresh => exact ⟨_, .stop asked, .inr ⟨Nat.one_pos, path, rfl, rfl⟩⟩
    | unreadable fresh read there =>
      rw [hsource read] at there
      cases there
    | broken fresh read failed =>
      obtain ⟨walk, hwalk, hexplains⟩ := ih _ (Nat.lt_succ_self _) (h.below asked read) failed
      refine ⟨path :: walk, .go asked read hwalk, ?_⟩
      rcases hexplains with ⟨hnodup, hroot⟩ | ⟨hlength, last, hlast, hroot⟩
      · rw [← List.append_cons] at hnodup hroot
        exact .inl ⟨hnodup, hroot⟩
      · refine .inr ⟨Nat.succ_lt_succ hlength, last, ?_, hroot⟩
        rw [List.getLast?_cons, hlast]
        rfl

end

/-! ## Files in memory -/

/-- A store of files knows of no failure but that a file is missing. -/
theorem MemoryFiles.readable_source (files : MemoryFiles) : files.source.Readable := by
  intro path failure h
  rw [Source.readLines, source] at h
  split at h
  · cases h
  · cases h
    rfl

/-- What a store answers is the text of one of its files. -/
theorem MemoryFiles.exists_entry_of_readLines {files : MemoryFiles} {path : Path}
    {file : List Text} (h : files.source.readLines path = .ok file) :
    ∃ entry ∈ files.entries, entry.1 = Path.normalize path ∧ Text.lines entry.2 = file := by
  rw [Source.readLines, source] at h
  split at h
  · next content hcontent =>
    cases h
    rw [get?, List.lookup_eq_some_iff] at hcontent
    obtain ⟨before, after, hentries, -⟩ := hcontent
    exact ⟨(Path.normalize path, content), by rw [hentries]; simp, rfl, rfl⟩
  · cases h

/-- **When the inclusion of templates succeeds.**  Let nothing else be at fault, and let the files
be in memory.  Then the document is accepted exactly when no walk comes to the same template twice
or is longer than the limit.  If it is not, then the root of the error is the cycle that such a walk
makes, or that a walk is too long.  The templates of a walk are the same only if their paths are,
since these are normal forms. -/
theorem parseLines_accepted_iff_walks {setting : Setting} {files : MemoryFiles}
    {kind : DocumentKind} {dir : Path} {lines : List Text}
    (hsource : setting.source = files.source) (h : OthersAccepted setting kind dir lines) :
    ((∃ document, (setting.parseLines kind dir lines).result = .ok document) ↔
      ∀ walk, Walk setting dir lines walk →
        walk.Nodup ∧ walk.length ≤ setting.config.maxDepth) ∧
    (∀ error, (setting.parseLines kind dir lines).result = .error error →
      ∃ walk, Walk setting dir lines walk ∧
        ((¬walk.Nodup ∧ error.root = .cyclic walk) ∨
          (setting.config.maxDepth < walk.length ∧ ∃ path, walk.getLast? = some path ∧
            error.root = .tooDeep path setting.config.maxDepth))) ∧
    ∀ walk, Walk setting dir lines walk → ∀ path ∈ walk, Path.normalize path = path := by
  have hreadable : setting.source.Readable := by
    rw [hsource]
    exact files.readable_source
  refine ⟨?_, ?_, ?_⟩
  · exact h.exists_document_iff_walks hreadable List.nodup_nil
  · intro error herror
    exact h.exists_walk_of_error hreadable herror
  · intro walk hwalk path hpath
    exact hwalk.normalize_eq hpath

/-- A template that asks for another one by two ways and under two names, and for one that is not
there. -/
def diamond : MemoryFiles where
  entries := [
    ("t/top.template.dem", "@template left\n@template right".toList),
    ("t/left.template.dem", "@template ../t/base".toList),
    ("t/right.template.dem", "@template ./base\n@template lost".toList),
    ("t/base.template.dem", "%1".toList)]

/-- The diamond, with a limit that is just enough for it. -/
def shallow : Setting where
  source := diamond.source
  config := { maxDepth := 3 }

/-- The two ways to the same template are no cycle. -/
theorem parseLines_accepted_iff_walks_diamond :
    (shallow.parseLines .embed "." ["# A".toList, "@template t/top".toList]).result
      = .ok { embed := { title := "A".toList, attributes := { color := 0x010101 } } } ∧
    ∀ walk, Walk shallow "." ["# A".toList, "@template t/top".toList] walk →
      walk.Nodup ∧ walk.length ≤ 3 := by
  have haccepted : (shallow.parseLines .embed "." ["# A".toList, "@template t/top".toList]).result
      = .ok { embed := { title := "A".toList, attributes := { color := 0x010101 } } } := by
    decide +kernel
  have hcolor : ∀ entry ∈ diamond.entries, ∀ line ∈ Text.lines entry.2,
      (Line.ofSource line).template? = none → Line.ofSource line = .color "1".toList := by
    decide +kernel
  have hothers : OthersAccepted shallow .embed "." ["# A".toList, "@template t/top".toList] := by
    refine ⟨?_, ?_⟩
    · intro line hline htemplate
      rcases List.mem_pair.mp hline with rfl | rfl
      · exact ⟨{ embed := { title := "A".toList } }, by decide +kernel⟩
      · exact absurd htemplate (by decide +kernel)
    · intro walk path file _ hread line hline htemplate
      obtain ⟨entry, hentry, -, rfl⟩ := MemoryFiles.exists_entry_of_readLines hread
      rw [Setting.accepts_iff htemplate, hcolor entry hentry line hline htemplate]
      exact ⟨.color 0x010101, .colorSign (by decide +kernel)⟩
  exact ⟨haccepted, (parseLines_accepted_iff_walks rfl hothers).1.mp ⟨_, haccepted⟩⟩

end ChatEmbed

import ChatEmbed.Proofs.Missing
import Mathlib.Data.List.Induction

/-!
# The files that a parse depends on

A parse asks a source for files and learns nothing else about it.  So what it makes of a document
is decided by the files that it asked for, and all others may come and go.

* `Setting.Reaches` are the templates that some walk through the files comes to.
* `parseLines_withSource` replaces the source by one with the same answers to what was asked.  The
  run stays as it is, to the last event, so the second source is asked for the same files in the
  same order.
* `reaches_of_mem_reads` says that only templates that a walk comes to are asked for.  Which these
  are is a question about the files alone.
* `MemoryFiles.Reorders` are the ways to store the same files in another order.
-/

set_option autoImplicit false

namespace ChatEmbed

/-! ## What can be reached -/

/-- Some walk from the lines comes to the template. -/
def Setting.Reaches (setting : Setting) (dir : Path) (lines : List Text) (path : Path) : Prop :=
  ∃ walk, Walk setting dir lines walk ∧ path ∈ walk

/-- The first template is the second one, or its lines reach the second one. -/
def Setting.Leads (setting : Setting) (target path : Path) : Prop :=
  path = target ∨ ∃ file, setting.source.readLines target = .ok file ∧
    setting.Reaches (Setting.dirOf target) file path

/-- **What is reached**, one step at a time: the templates that the lines ask for, and whatever
these reach. -/
theorem reaches_iff {setting : Setting} {dir : Path} {lines : List Text} {path : Path} :
    setting.Reaches dir lines path ↔
      ∃ target ∈ setting.config.targets dir lines, setting.Leads target path := by
  constructor
  · rintro ⟨walk, hwalk, hmem⟩
    cases hwalk with
    | stop asked => exact ⟨_, asked, .inl (List.mem_singleton.mp hmem)⟩
    | go asked read onward =>
      rcases List.mem_cons.mp hmem with rfl | hrest
      · exact ⟨_, asked, .inl rfl⟩
      · exact ⟨_, asked, .inr ⟨_, read, _, onward, hrest⟩⟩
  · rintro ⟨target, asked, rfl | ⟨file, read, walk, hwalk, hmem⟩⟩
    · exact ⟨[path], .stop asked, List.mem_singleton_self path⟩
    · exact ⟨target :: walk, .go asked read hwalk, List.mem_cons_of_mem target hmem⟩

/-- A line reaches whatever the template that it asks for leads to. -/
theorem Setting.Leads.reaches {setting : Setting} {dir : Path} {lines : List Text} {path : Path}
    {line name : Text} (h : setting.Leads (setting.config.templatePath dir name) path)
    (hline : line ∈ lines) (hname : (Line.ofSource line).template? = some name) :
    setting.Reaches dir lines path :=
  reaches_iff.mpr ⟨_, Config.mem_targets.mpr ⟨line, hline, name, hname, rfl⟩, h⟩

/-- In a store of files, what is reached is asked for by the lines or by one of the files. -/
theorem Setting.Reaches.mem_targets {setting : Setting} {files : MemoryFiles}
    (hsource : setting.source = files.source) {dir : Path} {lines : List Text} {path : Path}
    (h : setting.Reaches dir lines path) :
    path ∈ setting.config.targets dir lines ∨ ∃ entry ∈ files.entries,
      path ∈ setting.config.targets (Setting.dirOf entry.1) (Text.lines entry.2) := by
  obtain ⟨walk, hwalk, hmem⟩ := h
  induction hwalk with
  | stop asked =>
    rw [List.mem_singleton.mp hmem]
    exact .inl asked
  | go asked read _ ih =>
    rcases List.mem_cons.mp hmem with rfl | hrest
    · exact .inl asked
    rcases ih hrest with hbelow | hbelow
    · rw [hsource] at read
      obtain ⟨entry, hentry, hkey, hlines⟩ := MemoryFiles.exists_entry_of_readLines read
      rw [Config.normalize_eq_of_mem_targets asked] at hkey
      rw [← hkey, ← hlines] at hbelow
      exact .inr ⟨entry, hentry, hbelow⟩
    · exact .inr hbelow

/-! ## The files that a run asks for -/

section

variable {α β : Type} {run : Run ParseError α} {next : α → Run ParseError β}

/-- Two runs in a row ask for what the first one asks for, and then the second if there is one. -/
theorem Run.mem_reads_bind_iff {path : Path} :
    path ∈ (run >>= next).reads ↔
      path ∈ run.reads ∨ ∃ value, run.result = .ok value ∧ path ∈ (next value).reads := by
  obtain ⟨events, error | value⟩ := run <;> simp [Run.reads, List.filterMap_append]

end

/-- Runs in a row ask for files with some property if their parts do. -/
theorem congruence_reads (P : Path → Prop) :
    Run.Congruence fun _ run _ ↦ ∀ path ∈ run.reads, P path where
  ofExcept _ := List.forall_mem_nil _
  bind hrun hnext path hpath := by
    rcases Run.mem_reads_bind_iff.mp hpath with hfirst | ⟨value, -, hsecond⟩
    · exact hrun path hfirst
    · exact hnext value path hsecond

/-- If two sources agree on what runs in a row ask for, they agree on what the parts ask for. -/
theorem congruence_agree (first second : Source) :
    Run.Congruence fun _ run other ↦
      (∀ path ∈ run.reads, first path = second path) → other = run :=
  Run.congruence_of_parts
    (fun h path hpath ↦ h path (Run.mem_reads_bind_iff.mpr (.inl hpath)))
    fun hvalue h path hpath ↦ h path (Run.mem_reads_bind_iff.mpr (.inr ⟨_, hvalue, hpath⟩))

section

variable {setting : Setting} {room : Nat} {chain : List Path} {dir path : Path} {name : Text}
variable {kind : DocumentKind} {lines file : List Text}

/-- To load a template that is there, its file is asked for, and then what its lines ask for. -/
theorem reads_loadTemplate_of_ok (hpath : setting.config.templatePath dir name = path)
    (fresh : path ∉ chain) (read : setting.source.readLines path = .ok file) :
    (loadTemplate setting (room + 1) chain dir name).reads =
      path :: (setting.templateDocument room chain path file).reads := by
  rw [loadTemplate_succ_of_ok hpath fresh read]
  simp [Run.reads, List.filterMap_cons, Event.asked?]

/-- To load a template for which there is room, its file is asked for, be it there or not. -/
theorem mem_reads_loadTemplate (hpath : setting.config.templatePath dir name = path)
    (fresh : path ∉ chain) : path ∈ (loadTemplate setting (room + 1) chain dir name).reads := by
  rcases hfile : setting.source.readLines path with failure | file
  · rw [loadTemplate_succ_of_error hpath fresh hfile]
    exact List.mem_singleton_self path
  · rw [reads_loadTemplate_of_ok hpath fresh hfile]
    exact List.mem_cons_self

/-- **Only what can be reached is asked for.**  The induction is on the room that is left. -/
theorem reaches_of_mem_reads (h : path ∈ (documentOfLines (loadTemplate setting room chain dir)
    kind setting.now lines).reads) : setting.Reaches dir lines path := by
  induction room using Nat.strongRecOn generalizing chain dir kind lines path with
  | ind room ih =>
    have hreads := congruence_reads (setting.Reaches dir lines)
    refine hreads.documentOfLines_of_asked _ (loadTemplate setting room chain dir) kind
      setting.now (fun line hline name hname path hmem ↦ ?_) path h
    refine Setting.Leads.reaches ?_ hline hname
    generalize htarget : setting.config.templatePath dir name = target
    by_cases hchain : target ∈ chain
    · simp [loadTemplate_of_mem htarget hchain, Run.fail, Run.reads] at hmem
    rcases room with _ | below
    · simp [loadTemplate_zero htarget hchain, Run.fail, Run.reads] at hmem
    rcases hfile : setting.source.readLines target with failure | file
    · rw [loadTemplate_succ_of_error htarget hchain hfile] at hmem
      exact .inl (by simpa [Run.reads, Event.asked?] using hmem)
    · rw [reads_loadTemplate_of_ok htarget hchain hfile] at hmem
      rcases List.mem_cons.mp hmem with rfl | hbelow
      · exact .inl rfl
      · exact .inr ⟨file, hfile, ih below (Nat.lt_succ_self below) hbelow⟩

/-! ## Another source with the same answers -/

variable {source : Source}

/-- A template is loaded in the same way from a source that agrees on what is asked for. -/
theorem loadTemplate_withSource
    (h : ∀ path ∈ (loadTemplate setting room chain dir name).reads,
      setting.source path = source path) :
    loadTemplate (setting.withSource source) room chain dir name =
      loadTemplate setting room chain dir name := by
  induction room using Nat.strongRecOn generalizing chain dir name with
  | ind room ih =>
    generalize hpath : setting.config.templatePath dir name = path
    have hother : (setting.withSource source).config.templatePath dir name = path := hpath
    by_cases hchain : path ∈ chain
    · rw [loadTemplate_of_mem hpath hchain, loadTemplate_of_mem hother hchain]
    rcases room with _ | below
    · rw [loadTemplate_zero hpath hchain, loadTemplate_zero hother hchain]
      rfl
    have hanswer : (setting.withSource source).source.readLines path =
        setting.source.readLines path := by
      rw [Source.readLines, Source.readLines, h path (mem_reads_loadTemplate hpath hchain)]
      rfl
    rcases hfile : setting.source.readLines path with failure | file
    · rw [loadTemplate_succ_of_error hpath hchain hfile,
        loadTemplate_succ_of_error hother hchain (hanswer.trans hfile)]
    · rw [reads_loadTemplate_of_ok hpath hchain hfile] at h
      have hbelow := (List.forall_mem_cons.mp h).2
      have hdocument : (setting.withSource source).templateDocument below chain path file =
          setting.templateDocument below chain path file :=
        (congruence_agree setting.source source).documentOfLines _ _
          (fun _ hname ↦ ih below (Nat.lt_succ_self below) hname) .template setting.now file hbelow
      rw [loadTemplate_succ_of_ok hpath hchain hfile,
        loadTemplate_succ_of_ok hother hchain (hanswer.trans hfile), hdocument]

/-- **A document is parsed in the same way from a source that agrees on what is asked for**, so that
source is asked for the same. -/
theorem parseLines_withSource
    (h : ∀ path ∈ (setting.parseLines kind dir lines).reads, setting.source path = source path) :
    (setting.withSource source).parseLines kind dir lines = setting.parseLines kind dir lines :=
  (congruence_agree setting.source source).documentOfLines _ _
    (fun _ hname ↦ loadTemplate_withSource hname) kind setting.now lines h

end

/-! ## Files in memory -/

namespace MemoryFiles

/-- The files that a list has for a path under all its spellings, in their order. -/
def versions (entries : List (Path × Text)) (path : Path) : List (Path × Text) :=
  entries.filter fun entry ↦ Path.normalize entry.1 = Path.normalize path

/-- The two lists have the same files for every path, in the same order.  Files for different paths
may be in any order. -/
def Reorders (entries others : List (Path × Text)) : Prop :=
  ∀ path, versions entries path = versions others path

/-- Of the files that are inserted for a path, the last one counts. -/
theorem get?_ofList (entries : List (Path × Text)) (path : Path) :
    (ofList entries).get? path = (versions entries path).getLast?.map Prod.snd := by
  -- the last file that is inserted replaces the others, so the list is taken from its end
  induction entries using List.reverseRecOn with
  | nil => rfl
  | append_singleton before entry ih =>
    have hlast : ofList (before ++ [entry]) = (ofList before).insert entry.1 entry.2 := by
      rw [ofList, List.foldl_append]
      rfl
    rw [hlast, get?_insert, ih, versions, versions, List.filter_append]
    by_cases hpath : Path.normalize path = Path.normalize entry.1
    · simp [hpath]
    · rw [if_neg hpath, List.filter_singleton]
      simp [Ne.symm hpath]

theorem Reorders.get?_ofList_eq {entries others : List (Path × Text)} (h : Reorders entries others)
    (path : Path) : (ofList entries).get? path = (ofList others).get? path := by
  rw [get?_ofList, get?_ofList, h path]

/-- Files for different paths can be inserted in any order. -/
theorem reorders_of_perm {entries others : List (Path × Text)} (h : entries.Perm others)
    (hpaths : (entries.map fun entry ↦ Path.normalize entry.1).Nodup) :
    Reorders entries others := by
  intro path
  have hfilter : (versions entries path).Perm (versions others path) := h.filter _
  -- there is one file for the path at most, so there is nothing to be put in order
  have hfew : (versions entries path).length ≤ 1 := by
    have hkeys : ((versions entries path).map fun entry ↦ Path.normalize entry.1).Nodup :=
      hpaths.sublist (List.filter_sublist.map _)
    have hsame : (versions entries path).map (fun entry ↦ Path.normalize entry.1) =
        List.replicate (versions entries path).length (Path.normalize path) := by
      refine List.eq_replicate_iff.mpr ⟨List.length_map _, List.forall_mem_map.mpr ?_⟩
      intro entry hentry
      simpa using (List.mem_filter.mp hentry).2
    rw [hsame] at hkeys
    exact List.nodup_replicate.mp hkeys
  rcases hversions : versions entries path with _ | ⟨entry, _ | ⟨second, rest⟩⟩
  · rw [hversions] at hfilter
    exact hfilter.nil_eq
  · rw [hversions] at hfilter
    exact hfilter.singleton_eq
  · rw [hversions] at hfew
    simp at hfew

/-- Two stores with the same answer to a path agree on it as sources. -/
theorem source_eq_of_get?_eq {first second : MemoryFiles} {path : Path}
    (h : first.get? path = second.get? path) : first.source path = second.source path := by
  rw [source, source, h]

end MemoryFiles

/-- **A parse depends on the files that it reads, and on nothing else.**  Let the files be in
memory.  A store that has the same files under the paths that are read gives the same run: it is
read in the same order, and the outcome is the same.  In particular it is enough to have the same
files under the paths that a walk comes to, and it does not matter in which order files for
different paths have been inserted. -/
theorem parseLines_local (setting : Setting) (kind : DocumentKind) (dir : Path)
    (lines : List Text) :
    (∀ first second : MemoryFiles,
      (∀ path ∈ ((setting.withSource first.source).parseLines kind dir lines).reads,
        first.get? path = second.get? path) →
      (setting.withSource second.source).parseLines kind dir lines =
        (setting.withSource first.source).parseLines kind dir lines) ∧
    (∀ first second : MemoryFiles,
      (∀ path, (setting.withSource first.source).Reaches dir lines path →
        first.get? path = second.get? path) →
      (setting.withSource second.source).parseLines kind dir lines =
        (setting.withSource first.source).parseLines kind dir lines) ∧
    ∀ entries others : List (Path × Text), MemoryFiles.Reorders entries others →
      (setting.withSource (MemoryFiles.ofList others).source).parseLines kind dir lines =
        (setting.withSource (MemoryFiles.ofList entries).source).parseLines kind dir lines := by
  have hread (first second : MemoryFiles)
      (h : ∀ path ∈ ((setting.withSource first.source).parseLines kind dir lines).reads,
        first.get? path = second.get? path) :
      (setting.withSource second.source).parseLines kind dir lines =
        (setting.withSource first.source).parseLines kind dir lines :=
    @parseLines_withSource (setting.withSource first.source) dir kind lines second.source
      fun path hpath ↦ MemoryFiles.source_eq_of_get?_eq (h path hpath)
  refine ⟨hread, fun first second h ↦ ?_, fun entries others h ↦ ?_⟩
  · exact hread first second fun path hpath ↦ h path (reaches_of_mem_reads hpath)
  · exact hread _ _ fun path _ ↦ h.get?_ofList_eq path

/-- A template that asks for one that does not exist, and a file that nobody asks for. -/
def stationery : List (Path × Text) := [
  ("t/base.template.dem", "@template ink\n%1".toList),
  ("notes.dem", "@template t/base".toList)]

/-- The setting with these files. -/
def desk : Setting := { source := (MemoryFiles.ofList stationery).source }

/-- The notes can be cleared, one more template can be put up, and the files can be inserted the
other way round. -/
theorem parseLines_local_desk :
    (desk.parseLines .embed "t" ["@template base".toList]).reads
      = ["t/base.template.dem".toList, "t/ink.template.dem".toList] ∧
    (desk.withSource ((MemoryFiles.ofList stationery).insert "notes.dem" []).source).parseLines
        .embed "t" ["@template base".toList]
      = desk.parseLines .embed "t" ["@template base".toList] ∧
    (desk.withSource
          ((MemoryFiles.ofList stationery).insert "t/pen.template.dem" []).source).parseLines
        .embed "t" ["@template base".toList]
      = desk.parseLines .embed "t" ["@template base".toList] ∧
    (desk.withSource (MemoryFiles.ofList stationery.reverse).source).parseLines
        .embed "t" ["@template base".toList]
      = desk.parseLines .embed "t" ["@template base".toList] := by
  have hreads : (desk.parseLines .embed "t" ["@template base".toList]).reads
      = ["t/base.template.dem".toList, "t/ink.template.dem".toList] := by
    decide +kernel
  have hasked : ∀ entry ∈ (MemoryFiles.ofList stationery).entries,
      ∀ path ∈ desk.config.targets (Setting.dirOf entry.1) (Text.lines entry.2),
        path ∈ ["t/base.template.dem".toList, "t/ink.template.dem".toList] := by
    decide +kernel
  obtain ⟨hread, hreached, horder⟩ := parseLines_local desk .embed "t" ["@template base".toList]
  refine ⟨hreads, ?_, ?_, ?_⟩
  · refine hread (MemoryFiles.ofList stationery) _ fun path hpath ↦ ?_
    have hmem : path ∈ ["t/base.template.dem".toList, "t/ink.template.dem".toList] := by
      rw [← hreads]
      exact hpath
    rcases List.mem_pair.mp hmem with rfl | rfl <;> decide +kernel
  · refine hreached (MemoryFiles.ofList stationery) _ fun path hpath ↦ ?_
    have hmem : path ∈ ["t/base.template.dem".toList, "t/ink.template.dem".toList] := by
      rcases hpath.mem_targets rfl with hline | ⟨entry, hentry, hline⟩
      · rw [List.mem_singleton.mp hline]
        exact List.mem_cons_self
      · exact hasked entry hentry path hline
    rcases List.mem_pair.mp hmem with rfl | rfl <;> decide +kernel
  · exact horder stationery stationery.reverse
      (MemoryFiles.reorders_of_perm (List.reverse_perm _).symm (by decide +kernel))

end ChatEmbed

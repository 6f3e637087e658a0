import ChatEmbed.Proofs.Inclusion

/-!
# The chain of open templates

The parser hands the chain of open templates down and never gets it back, so nothing it does can
spoil the chain.  One can also keep a single chain, put a template at its end before its lines are
read and take it off again after.  Then everything depends on how the calls inside of calls treat
it, and also whether they come to an end at all, since the files may be any function from paths to
lines.  This file is about such a chain.

* `Loader` keeps one chain and changes it in place.  Its calls may go into each other as deep as a
  number says, and `none` stands for a call that has not returned by then.  `performs_load` says
  that all calls return, with the outcome that the parser gives and with the chain they found.
* `Evolves` says by which steps a chain may change.  `evolves_loadTemplate` says that the events of
  a run are such steps, and that they lead back to where they started.
* `Reachable` are the chains of a loader that started without open templates, at any moment of its
  calls.
-/

set_option autoImplicit false

namespace ChatEmbed

/-! ## One chain that is changed in place -/

/-- Templates are loaded with one chain for all of them.  Next to it stands what has happened. -/
structure Loader where
  chain : List Path := []
  events : List Event := []

namespace Loader

/-- The loader when it has asked for a file. -/
def read (loader : Loader) (path : Path) : Loader :=
  { loader with events := loader.events ++ [.read path] }

/-- The loader with one more open template. -/
def enter (loader : Loader) (path : Path) : Loader :=
  ⟨loader.chain ++ [path], loader.events ++ [.enter path]⟩

/-- The loader without the template that was opened last. -/
def leave (loader : Loader) (path : Path) : Loader :=
  ⟨loader.chain.dropLast, loader.events ++ [.leave path]⟩

/-- The edit of a line, `load` being the way to templates. -/
def edit (load : Text → Loader → Option (Except ParseError (Option Template) × Loader))
    (kind : DocumentKind) (now : Text) (number : Nat) (span : Span) (raw : Text) (loader : Loader) :
    Option (Except ParseError Edit × Loader) :=
  match Directive.read kind now raw with
  | .error fault => some (.error (.line number span fault), loader)
  | .ok (.edit made) => some (.ok made, loader)
  | .ok (.includeTemplate name) => do
    let (loaded, loader) ← load name loader
    let outcome := loaded.map fun template => .fill ((template.map Template.attributes).getD {})
    return (outcome, loader)

/-- The edits of the lines, up to the first one that fails. -/
def edits (load : Text → Loader → Option (Except ParseError (Option Template) × Loader))
    (kind : DocumentKind) (now : Text) :
    Nat → Nat → List Text → Loader → Option (Except ParseError (List Edit) × Loader)
  | _, _, [], loader => some (.ok [], loader)
  | number, offset, line :: rest, loader => do
    let raw := Text.chomp line
    let stop := offset + Text.byteSize raw
    match ← edit load kind now number ⟨offset, stop⟩ raw loader with
    | (.error error, loader) => return (.error error, loader)
    | (.ok first, loader) => do
      let (others, loader) ← edits load kind now (number + 1) (stop + 1) rest loader
      return (others.map (first :: ·), loader)

/-- The template of the given name, with the loader as it is left.  Calls go into each other as deep
as the number says. -/
def load (setting : Setting) :
    Nat → Path → Text → Loader → Option (Except ParseError (Option Template) × Loader)
  | 0, _, _, _ => none
  | depth + 1, dir, name, loader =>
    let path := setting.config.templatePath dir name
    if loader.chain.contains path then some (.error (.cyclic (loader.chain ++ [path])), loader)
    else if setting.config.maxDepth ≤ loader.chain.length then
      some (.error (.tooDeep path setting.config.maxDepth), loader)
    else match setting.source.readLines path with
      | .error failure =>
        some (if failure.isMissing then .ok none else .error (.unreadable path failure),
          loader.read path)
      | .ok file => do
        let (made, loader) ← edits (load setting depth (Setting.dirOf path)) .template setting.now
          1 0 file ((loader.read path).enter path)
        let outcome := match made with
          | .ok edits => .ok (some ⟨path, (Draft.ofEdits edits).blueprint.embed.attributes⟩)
          | .error inner => .error (.inTemplate path inner)
        return (outcome, loader.leave path)

/-- The call returns if the loader has this chain open.  It has the outcome and the events of the
run then, and the loader has the same chain as before. -/
def Performs {α : Type} (chain : List Path) (call : Loader → Option (Except ParseError α × Loader))
    (run : Run ParseError α) : Prop :=
  ∀ earlier, call ⟨chain, earlier⟩ = some (run.result, ⟨chain, earlier ++ run.events⟩)

section

variable {chain : List Path} {kind : DocumentKind} {now : Text}
variable {load : Text → Loader → Option (Except ParseError (Option Template) × Loader)}
variable {fetch : Text → Run ParseError (Option Template)}

/-- A line leaves the chain alone if loading templates does. -/
theorem performs_edit (h : ∀ name, Performs chain (load name) (fetch name))
    (number : Nat) (span : Span) (raw : Text) :
    Performs chain (edit load kind now number span raw)
      (lineEdit fetch kind now number span raw) := by
  intro earlier
  rw [edit, lineEdit]
  cases Directive.read kind now raw with
  | error fault => simp [Run.fail]
  | ok directive =>
    cases directive with
    | edit made => simp [Directive.resolve]
    | includeTemplate name =>
      simp only [h name earlier, Directive.resolve]
      obtain ⟨events, error | template⟩ := fetch name <;> simp [Except.map]

/-- Lines leave the chain alone, also when one of them fails, if loading templates does. -/
theorem performs_edits (h : ∀ name, Performs chain (load name) (fetch name))
    (number offset : Nat) (lines : List Text) :
    Performs chain (edits load kind now number offset lines)
      (lineEdits fetch kind now number offset lines) := by
  induction lines generalizing number offset with
  | nil =>
    intro earlier
    simp [edits, lineEdits]
  | cons line rest ih =>
    intro earlier
    rw [edits, lineEdits]
    simp only [performs_edit h number _ _ earlier]
    obtain ⟨events, error | first⟩ := lineEdit fetch kind now number
      ⟨offset, offset + Text.byteSize (Text.chomp line)⟩ (Text.chomp line)
    · simp
    · have hrest := ih (number + 1) (offset + Text.byteSize (Text.chomp line) + 1)
        (earlier ++ events)
      generalize lineEdits fetch kind now (number + 1)
        (offset + Text.byteSize (Text.chomp line) + 1) rest = run at hrest ⊢
      obtain ⟨others, error | others⟩ := run <;> simp [hrest, Except.map]

end

/-- **Every call returns, and leaves the chain as it was**, whatever the outcome.  Calls go into
each other at most once more than the chain has room for templates. -/
theorem performs_load {setting : Setting} {depth : Nat} (chain : List Path)
    (hdepth : setting.config.maxDepth - chain.length < depth) (dir : Path) (name : Text) :
    Performs chain (load setting depth dir name)
      (loadTemplate setting (setting.config.maxDepth - chain.length) chain dir name) := by
  generalize hroom : setting.config.maxDepth - chain.length = room at hdepth
  induction depth generalizing chain dir name room with
  | zero => exact absurd hdepth (Nat.not_lt_zero _)
  | succ depth ih =>
    intro earlier
    rw [load]
    generalize hpath : setting.config.templatePath dir name = path
    by_cases hchain : path ∈ chain
    · simp [loadTemplate_of_mem hpath hchain, hchain, Run.fail]
    cases room with
    | zero =>
      have hfull : setting.config.maxDepth ≤ chain.length := Nat.le_of_sub_eq_zero hroom
      simp [loadTemplate_zero hpath hchain, hchain, hfull, Run.fail]
    | succ below =>
      have hspace : ¬setting.config.maxDepth ≤ chain.length := by omega
      cases hfile : setting.source.readLines path with
      | error failure =>
        simp [loadTemplate_succ_of_error hpath hchain hfile, hchain, hspace, read]
      | ok file =>
        have hbelow : setting.config.maxDepth - (chain ++ [path]).length = below := by
          rw [List.length_append, List.length_singleton]
          omega
        have hlines : Performs (chain ++ [path])
            (edits (load setting depth (Setting.dirOf path)) .template setting.now 1 0 file)
            (lineEdits (loadTemplate setting below (chain ++ [path]) (Setting.dirOf path)) .template
              setting.now 1 0 file) :=
          performs_edits (fun name ↦ ih _ _ name below hbelow (Nat.lt_of_succ_lt_succ hdepth))
            1 0 file
        have hreturns := hlines (earlier ++ [.read path] ++ [.enter path])
        rw [loadTemplate_succ_of_ok hpath hchain hfile, Setting.templateDocument, documentOfLines]
        simp only [List.contains_iff_mem, hchain, hspace, read, enter, hreturns]
        obtain ⟨events, error | edits⟩ := lineEdits (loadTemplate setting below (chain ++ [path])
          (Setting.dirOf path)) .template setting.now 1 0 file <;> simp [leave]

end Loader

/-! ## What the chain may be -/

/-- The chain can be open: it has distinct templates under their normal forms, and no more than the
limit allows. -/
structure Config.Allows (config : Config) (chain : List Path) : Prop where
  distinct : chain.Nodup
  normal : ∀ path ∈ chain, Path.normalize path = path
  bounded : chain.length ≤ config.maxDepth

/-- The template may be read while the chain is open. -/
structure Config.Admits (config : Config) (chain : List Path) (path : Path) : Prop where
  normal : Path.normalize path = path
  fresh : path ∉ chain
  room : chain.length < config.maxDepth

section

variable {config : Config} {chain mid final : List Path} {path : Path}

theorem Config.allows_nil (config : Config) : config.Allows [] :=
  ⟨List.nodup_nil, List.forall_mem_nil _, Nat.zero_le _⟩

/-- A template that may be read may be opened. -/
theorem Config.Allows.concat (h : config.Allows chain) (hpath : config.Admits chain path) :
    config.Allows (chain ++ [path]) where
  distinct := nodup_append_singleton.mpr ⟨hpath.fresh, h.distinct⟩
  normal := List.forall_mem_append.mpr ⟨h.normal, List.forall_mem_singleton.mpr hpath.normal⟩
  bounded := by
    rw [List.length_append, List.length_singleton]
    exact hpath.room

theorem Config.Allows.of_concat (h : config.Allows (chain ++ [path])) : config.Allows chain where
  distinct := (nodup_append_singleton.mp h.distinct).2
  normal := (List.forall_mem_append.mp h.normal).1
  bounded := by
    have hlength := h.bounded
    rw [List.length_append] at hlength
    exact Nat.le_of_add_right_le hlength

/-! ## How the chain may change -/

/-- The events lead from one chain to another.  Only what may be opened is asked for or opened, and
only what was opened last is closed. -/
inductive Evolves (config : Config) : List Path → List Event → List Path → Prop
  | done (chain : List Path) : Evolves config chain [] chain
  | read {chain : List Path} {path : Path} {rest : List Event} {final : List Path}
      (admitted : config.Admits chain path) (onward : Evolves config chain rest final) :
      Evolves config chain (.read path :: rest) final
  | enter {chain : List Path} {path : Path} {rest : List Event} {final : List Path}
      (admitted : config.Admits chain path) (onward : Evolves config (chain ++ [path]) rest final) :
      Evolves config chain (.enter path :: rest) final
  | leave {chain : List Path} {path : Path} {rest : List Event} {final : List Path}
      (onward : Evolves config chain rest final) :
      Evolves config (chain ++ [path]) (.leave path :: rest) final

namespace Evolves

variable {events first second before after : List Event}

theorem append (hfirst : Evolves config chain first mid)
    (hsecond : Evolves config mid second final) :
    Evolves config chain (first ++ second) final := by
  induction hfirst with
  | done => exact hsecond
  | read admitted _ ih => exact .read admitted (ih hsecond)
  | enter admitted _ ih => exact .enter admitted (ih hsecond)
  | leave _ ih => exact .leave (ih hsecond)

/-- The chain goes where the events say. -/
theorem foldl_follow_eq (h : Evolves config chain events final) :
    events.foldl Event.follow chain = final := by
  induction h with
  | done => rfl
  | read _ _ ih => exact ih
  | enter _ _ ih => exact ih
  | leave _ ih =>
    rw [List.foldl_cons, Event.follow, List.dropLast_concat]
    exact ih

/-- **Every step keeps the chain one that can be open.** -/
theorem allows (h : Evolves config chain events final) (hchain : config.Allows chain) :
    config.Allows final := by
  induction h with
  | done => exact hchain
  | read _ _ ih => exact ih hchain
  | enter admitted _ ih => exact ih (hchain.concat admitted)
  | leave _ ih => exact ih hchain.of_concat

/-- The way can be interrupted at any moment. -/
theorem of_append (h : Evolves config chain (before ++ after) final) :
    Evolves config chain before (before.foldl Event.follow chain) ∧
      Evolves config (before.foldl Event.follow chain) after final := by
  induction before generalizing chain with
  | nil => exact ⟨.done chain, h⟩
  | cons event before ih =>
    cases h with
    | read admitted onward =>
      obtain ⟨hbefore, hafter⟩ := ih onward
      exact ⟨.read admitted hbefore, hafter⟩
    | enter admitted onward =>
      obtain ⟨hbefore, hafter⟩ := ih onward
      exact ⟨.enter admitted hbefore, hafter⟩
    | @leave chain path _ _ onward =>
      obtain ⟨hbefore, hafter⟩ := ih onward
      rw [List.foldl_cons, Event.follow, List.dropLast_concat]
      exact ⟨.leave hbefore, hafter⟩

/-- What is asked for may be read at that moment. -/
theorem admits (h : Evolves config chain (before ++ .read path :: after) final) :
    config.Admits (before.foldl Event.follow chain) path := by
  obtain ⟨-, hafter⟩ := h.of_append
  generalize before.foldl Event.follow chain = opened at hafter ⊢
  cases hafter with
  | read admitted _ => exact admitted

/-- Two runs in a row, each of which leads back to the chain, lead back to it. -/
theorem bind {α β : Type} {run : Run ParseError α} {next : α → Run ParseError β}
    (hrun : Evolves config chain run.events chain)
    (hnext : ∀ value, Evolves config chain (next value).events chain) :
    Evolves config chain (run >>= next).events chain := by
  obtain ⟨events, error | value⟩ := run
  · exact hrun
  · exact hrun.append (hnext value)

end Evolves

/-! ## The events of a run -/

/-- The lines of a document lead back to the chain if loading templates does. -/
theorem evolves_documentOfLines {fetch : Text → Run ParseError (Option Template)}
    (h : ∀ name, Evolves config chain (fetch name).events chain) (kind : DocumentKind) (now : Text)
    (lines : List Text) :
    Evolves config chain (documentOfLines fetch kind now lines).events chain := by
  have hcongruence : Run.Congruence fun _ run _ ↦ Evolves config chain run.events chain :=
    ⟨fun _ ↦ .done chain, fun hrun hnext ↦ hrun.bind hnext⟩
  exact hcongruence.documentOfLines fetch fetch h kind now lines

end

/-- **Loading a template leads back to the chain**, and on the way the chain changes as it may.  The
induction is on the room that the chain leaves. -/
theorem evolves_loadTemplate {setting : Setting} {room : Nat} {chain : List Path}
    (hroom : chain.length + room = setting.config.maxDepth) (dir : Path) (name : Text) :
    Evolves setting.config chain (loadTemplate setting room chain dir name).events chain := by
  induction room generalizing chain dir name with
  | zero =>
    by_cases hchain : setting.config.templatePath dir name ∈ chain
    · rw [loadTemplate_of_mem rfl hchain]
      exact .done chain
    · rw [loadTemplate_zero rfl hchain]
      exact .done chain
  | succ below ih =>
    have hnormal : Path.normalize (setting.config.templatePath dir name)
        = setting.config.templatePath dir name := Path.normalize_normalize _
    generalize hpath : setting.config.templatePath dir name = path at hnormal
    by_cases hchain : path ∈ chain
    · rw [loadTemplate_of_mem hpath hchain]
      exact .done chain
    have hadmits : setting.config.Admits chain path := ⟨hnormal, hchain, by omega⟩
    cases hfile : setting.source.readLines path with
    | error failure =>
      rw [loadTemplate_succ_of_error hpath hchain hfile]
      exact .read hadmits (.done chain)
    | ok file =>
      rw [loadTemplate_succ_of_ok hpath hchain hfile]
      have hbelow : (chain ++ [path]).length + below = setting.config.maxDepth := by
        rw [List.length_append, List.length_singleton]
        omega
      have hdocument : Evolves setting.config (chain ++ [path])
          (setting.templateDocument below chain path file).events (chain ++ [path]) :=
        evolves_documentOfLines (fun name ↦ ih hbelow _ name) .template setting.now file
      exact .read hadmits (.enter hadmits (hdocument.append (.leave (.done chain))))

/-! ## The chains of a loader -/

/-- The template of the given name, loaded while the chain is open. -/
def Setting.loadBelow (setting : Setting) (chain : List Path) (dir : Path) (name : Text) :
    Run ParseError (Option Template) :=
  loadTemplate setting (setting.config.maxDepth - chain.length) chain dir name

/-- The chain is open at some moment if it is empty at first and templates are loaded then, one
after the other. -/
inductive Reachable (setting : Setting) : List Path → Prop
  | start : Reachable setting []
  | during {chain : List Path} {dir : Path} {name : Text} {before after : List Event}
      (reachable : Reachable setting chain)
      (split : (setting.loadBelow chain dir name).events = before ++ after) :
      Reachable setting (before.foldl Event.follow chain)

section

variable {setting : Setting} {chain : List Path}

theorem evolves_loadBelow (h : setting.config.Allows chain) (dir : Path) (name : Text) :
    Evolves setting.config chain (setting.loadBelow chain dir name).events chain :=
  evolves_loadTemplate (Nat.add_sub_cancel' h.bounded) dir name

theorem Reachable.allows (h : Reachable setting chain) : setting.config.Allows chain := by
  induction h with
  | start => exact setting.config.allows_nil
  | @during chain dir name _ _ _ split ih =>
    have hevolves := evolves_loadBelow ih dir name
    rw [split] at hevolves
    exact hevolves.of_append.1.allows ih

end

/-- **The chain of open templates is in order at all times, and is restored.**  Let a template be
loaded while some chain is open that a loader without open templates can come to.  If the loader has
only one chain and changes it in place, it still returns, by calls that go into each other at most
once more than the chain has room for templates.  It has the outcome and the events of the run, and
the chain is the one that it was.  The events tell the same: they lead back to the chain,
at every moment the chain has distinct templates under normal forms and no more than the limit, and
when a file is asked for, it is not in the chain, and the chain has room for it. -/
theorem loadBelow_restores {setting : Setting} {chain : List Path} (h : Reachable setting chain)
    (dir : Path) (name : Text) :
    (∀ depth, setting.config.maxDepth - chain.length < depth →
      Loader.Performs chain (Loader.load setting depth dir name)
        (setting.loadBelow chain dir name)) ∧
    (setting.loadBelow chain dir name).events.foldl Event.follow chain = chain ∧
    (∀ before after, (setting.loadBelow chain dir name).events = before ++ after →
      setting.config.Allows (before.foldl Event.follow chain)) ∧
    ∀ before path after, (setting.loadBelow chain dir name).events = before ++ .read path :: after →
      setting.config.Admits (before.foldl Event.follow chain) path ∧
        setting.config.Allows (before.foldl Event.follow chain ++ [path]) := by
  have hevolves := evolves_loadBelow h.allows dir name
  have hmoment {before after : List Event}
      (hsplit : (setting.loadBelow chain dir name).events = before ++ after) :
      setting.config.Allows (before.foldl Event.follow chain) := by
    rw [hsplit] at hevolves
    exact hevolves.of_append.1.allows h.allows
  refine ⟨fun _ hdepth ↦ Loader.performs_load chain hdepth dir name, hevolves.foldl_follow_eq,
    fun _ _ ↦ hmoment, fun before path after hsplit ↦ ?_⟩
  have hopened := hmoment hsplit
  rw [hsplit] at hevolves
  exact ⟨hevolves.admits, hopened.concat hevolves.admits⟩

/-- A template that asks for one without a fault, for one that is not there, and for one with a
fault further inside. -/
def troubled : Setting where
  source := MemoryFiles.source ⟨[
    ("t/outer.template.dem", "@template fine\n@template lost\n@template middle".toList),
    ("t/fine.template.dem", "%1".toList),
    ("t/middle.template.dem", "@template ./bad\n@url B".toList),
    ("t/bad.template.dem", "# no".toList)]⟩
  config := { maxDepth := 3 }

/-- While the outer template is open, the fault passes through both of the others on its way out,
and both are closed. -/
theorem loadBelow_restores_after_fault :
    Reachable troubled ["t/outer.template.dem".toList] ∧
    Loader.load troubled 3 "t" "middle" ⟨["t/outer.template.dem".toList], []⟩ =
      some (.error (.inTemplate "t/middle.template.dem" (.inTemplate "t/bad.template.dem"
          (.line 1 ⟨0, 4⟩ (.contentInTemplate "# no")))),
        ⟨["t/outer.template.dem".toList], [.read "t/middle.template.dem",
          .enter "t/middle.template.dem", .read "t/bad.template.dem", .enter "t/bad.template.dem",
          .leave "t/bad.template.dem", .leave "t/middle.template.dem"]⟩) ∧
    troubled.config.Admits ["t/outer.template.dem".toList, "t/middle.template.dem".toList]
      "t/bad.template.dem" := by
  have hreachable : Reachable troubled ["t/outer.template.dem".toList] :=
    @Reachable.during troubled [] "." "t/outer"
      [.read "t/outer.template.dem", .enter "t/outer.template.dem"] _ .start
      (List.prefix_iff_eq_append.mp (by decide +kernel)).symm
  have hevents : (troubled.loadBelow ["t/outer.template.dem".toList] "t" "middle").events =
      [.read "t/middle.template.dem", .enter "t/middle.template.dem", .read "t/bad.template.dem",
        .enter "t/bad.template.dem", .leave "t/bad.template.dem",
        .leave "t/middle.template.dem"] := by decide +kernel
  have hresult : (troubled.loadBelow ["t/outer.template.dem".toList] "t" "middle").result =
      .error (.inTemplate "t/middle.template.dem" (.inTemplate "t/bad.template.dem"
        (.line 1 ⟨0, 4⟩ (.contentInTemplate "# no")))) := by decide +kernel
  obtain ⟨hperforms, -, -, hadmits⟩ := loadBelow_restores hreachable "t" "middle"
  refine ⟨hreachable, ?_, ?_⟩
  · rw [hperforms 3 (by decide) [], hevents, hresult]
    rfl
  · exact (hadmits [.read "t/middle.template.dem", .enter "t/middle.template.dem"]
      "t/bad.template.dem" _ hevents).1

end ChatEmbed

import ChatEmbed.Proofs.Lines

/-!
# What loading a template comes to

A template is looked up, and then its lines make a document of their own, whose templates are loaded
with a chain that is one longer.  This file is about one level of this.

* There is one equation for each way in which a loading can go, from `loadTemplate_of_mem` to
  `loadTemplate_succ_of_ok`.  They give the whole run, that is also what happened on the way.
* Where only the outcome counts, `Loads` has a case for each, and `loadTemplate_eq_iff` says that
  these are the cases of the parser.
-/

set_option autoImplicit false

namespace ChatEmbed

namespace Setting

/-- The directory in which a template file looks up the templates that it asks for. -/
def dirOf (path : Path) : Path := (Path.parent? path).getD []

/-- The document that the lines of a template make while it is open, below the templates of the
chain. -/
def templateDocument (setting : Setting) (room : Nat) (chain : List Path) (path : Path)
    (file : List Text) : Run ParseError Blueprint :=
  documentOfLines (loadTemplate setting room (chain ++ [path]) (dirOf path)) .template
    setting.now file

end Setting

/-! ## The run -/

section

variable {setting : Setting} {room : Nat} {chain : List Path} {dir : Path} {name : Text}
variable {path : Path}

theorem loadTemplate_of_mem (hpath : setting.config.templatePath dir name = path)
    (opened : path ∈ chain) :
    loadTemplate setting room chain dir name = Run.fail (.cyclic (chain ++ [path])) := by
  subst hpath
  rw [loadTemplate.eq_def]
  exact if_pos opened

theorem loadTemplate_zero (hpath : setting.config.templatePath dir name = path)
    (fresh : path ∉ chain) :
    loadTemplate setting 0 chain dir name = Run.fail (.tooDeep path setting.config.maxDepth) := by
  subst hpath
  rw [loadTemplate.eq_def]
  exact if_neg fresh

theorem loadTemplate_succ_of_error (hpath : setting.config.templatePath dir name = path)
    (fresh : path ∉ chain) {failure : ReadFailure}
    (read : setting.source.readLines path = .error failure) :
    loadTemplate setting (room + 1) chain dir name =
      ⟨[.read path],
        if failure.isMissing then .ok none else .error (.unreadable path failure)⟩ := by
  subst hpath
  rw [loadTemplate.eq_def]
  dsimp only
  rw [if_neg fresh, read]
  cases hmissing : failure.isMissing <;> simp [Run.note, Run.fail, hmissing]

theorem loadTemplate_succ_of_ok (hpath : setting.config.templatePath dir name = path)
    (fresh : path ∉ chain) {file : List Text} (read : setting.source.readLines path = .ok file) :
    loadTemplate setting (room + 1) chain dir name =
      ⟨.read path :: .enter path :: ((setting.templateDocument room chain path file).events ++
          [.leave path]),
        match (setting.templateDocument room chain path file).result with
        | .ok document => .ok (some ⟨path, document.embed.attributes⟩)
        | .error inner => .error (.inTemplate path inner)⟩ := by
  subst hpath
  rw [loadTemplate.eq_def]
  dsimp only
  rw [if_neg fresh, read]
  rcases hdocument : setting.templateDocument room chain _ file with ⟨events, inner | document⟩
  all_goals
    rw [Setting.templateDocument, Setting.dirOf] at hdocument
    simp [Run.note, Run.between, Run.mapError, Except.mapError, hdocument]
end

/-! ## The outcome -/

/-- How it can end to load the template at `path` below the templates of the chain, with room for
some more. -/
inductive Loads (setting : Setting) (chain : List Path) (path : Path) :
    Nat → Except ParseError (Option Template) → Prop
  /-- The template is open already. -/
  | cyclic {room : Nat} (opened : path ∈ chain) :
      Loads setting chain path room (.error (.cyclic (chain ++ [path])))
  /-- The limit is reached.  The file has not been looked for yet. -/
  | tooDeep (fresh : path ∉ chain) :
      Loads setting chain path 0 (.error (.tooDeep path setting.config.maxDepth))
  | missing {room : Nat} {failure : ReadFailure} (fresh : path ∉ chain)
      (read : setting.source.readLines path = .error failure) (missing : failure.isMissing = true) :
      Loads setting chain path (room + 1) (.ok none)
  | unreadable {room : Nat} {failure : ReadFailure} (fresh : path ∉ chain)
      (read : setting.source.readLines path = .error failure) (there : failure.isMissing = false) :
      Loads setting chain path (room + 1) (.error (.unreadable path failure))
  | loaded {room : Nat} {file : List Text} {document : Blueprint} (fresh : path ∉ chain)
      (read : setting.source.readLines path = .ok file)
      (parsed : (setting.templateDocument room chain path file).result = .ok document) :
      Loads setting chain path (room + 1) (.ok (some ⟨path, document.embed.attributes⟩))
  | broken {room : Nat} {file : List Text} {inner : ParseError} (fresh : path ∉ chain)
      (read : setting.source.readLines path = .ok file)
      (failed : (setting.templateDocument room chain path file).result = .error inner) :
      Loads setting chain path (room + 1) (.error (.inTemplate path inner))

section

variable {setting : Setting} {room : Nat} {chain : List Path} {dir : Path} {name : Text}
variable {path : Path}

/-- Every loading ends in one of the ways of `Loads`. -/
theorem loads_loadTemplate (setting : Setting) (room : Nat) (chain : List Path) (dir : Path)
    (name : Text) : Loads setting chain (setting.config.templatePath dir name) room
      (loadTemplate setting room chain dir name).result := by
  generalize hpath : setting.config.templatePath dir name = path
  by_cases hchain : path ∈ chain
  · rw [loadTemplate_of_mem hpath hchain]
    exact .cyclic hchain
  cases room with
  | zero =>
    rw [loadTemplate_zero hpath hchain]
    exact .tooDeep hchain
  | succ below =>
    cases hfile : setting.source.readLines path with
    | error failure =>
      rw [loadTemplate_succ_of_error hpath hchain hfile]
      cases hmissing : failure.isMissing with
      | true => exact .missing hchain hfile hmissing
      | false => exact .unreadable hchain hfile hmissing
    | ok file =>
      rw [loadTemplate_succ_of_ok hpath hchain hfile]
      cases hdocument : (setting.templateDocument below chain path file).result with
      | ok document => exact .loaded hchain hfile hdocument
      | error inner => exact .broken hchain hfile hdocument

/-- Two ways never apply together, or with different outcomes. -/
theorem Loads.unique {first second : Except ParseError (Option Template)}
    (hfirst : Loads setting chain path room first)
    (hsecond : Loads setting chain path room second) : first = second := by
  cases hfirst <;> cases hsecond <;> simp_all

/-- A template that is loaded is not open. -/
theorem Loads.not_mem {template : Option Template}
    (h : Loads setting chain path room (.ok template)) : path ∉ chain := by
  cases h with
  | missing fresh | loaded fresh => exact fresh

/-- If a template that is loaded exists, then its lines are accepted. -/
theorem Loads.exists_document {template : Option Template} {file : List Text}
    (h : Loads setting chain path room (.ok template))
    (read : setting.source.readLines path = .ok file) :
    ∃ below document, room = below + 1 ∧
      (setting.templateDocument below chain path file).result = .ok document := by
  cases h with
  | missing _ other =>
    rw [read] at other
    cases other
  | loaded _ same parsed =>
    obtain rfl := Except.ok.inj (read.symm.trans same)
    exact ⟨_, _, rfl, parsed⟩

/-- **The ways in which a loading ends** are those of `Loads`. -/
theorem loadTemplate_eq_iff {result : Except ParseError (Option Template)} :
    (loadTemplate setting room chain dir name).result = result ↔
      Loads setting chain (setting.config.templatePath dir name) room result := by
  constructor
  · rintro rfl
    exact loads_loadTemplate setting room chain dir name
  · exact (loads_loadTemplate setting room chain dir name).unique

end

end ChatEmbed

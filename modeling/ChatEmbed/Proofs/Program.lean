import ChatEmbed.CommandLine.Program
import ChatEmbed.Proofs.Arguments
import ChatEmbed.Proofs.Schema

/-!
# The program answers as the library does

The program does not have a file compiled: it reads the file itself, finds out where its templates
are, and has the text compiled.  This comes to the same.

* `Overrides.Last` is the value that counts of several for one token, and
  `Blueprint.render_congr` says that nothing else about the values matters.
* `Setting.answer` is what the library says about a file, and `Setting.answer_of_ok` what it says
  about the text of the file.
* `Program.perform_eq` says what the program does with options: it asks for the configuration, and
  then for what the library asks for.
* `Program.Shows` says what it leaves behind for an answer, and `Program.run_agrees` puts this
  together for all command lines.
-/

set_option autoImplicit false

namespace ChatEmbed

/-! ## Values for tokens -/

/-- The value is the last one that is given to the token. -/
def Overrides.Last (overrides : Overrides) (token value : Text) : Prop :=
  ∃ before after, overrides = before ++ (token, value) :: after ∧
    ∀ later, (token, later) ∉ after

theorem Overrides.get?_eq_some_iff {overrides : Overrides} {token value : Text} :
    overrides.get? token = some value ↔ overrides.Last token value := by
  rw [get?, List.lookup_eq_some_iff]
  constructor
  · rintro ⟨front, back, hreverse, hfront⟩
    refine ⟨back.reverse, front.reverse, ?_, fun later hlater ↦ ?_⟩
    · rw [← List.reverse_reverse overrides, hreverse]
      simp
    · simpa using hfront _ (List.mem_reverse.mp hlater)
  · rintro ⟨before, after, rfl, hlast⟩
    refine ⟨after.reverse, before.reverse, by simp, fun pair hpair ↦ ?_⟩
    rw [bne_iff_ne]
    rintro rfl
    exact hlast _ (List.mem_reverse.mp hpair)

/-- Rendering does not depend on more than the value of every token. -/
theorem Blueprint.render_congr {first second : Overrides}
    (h : ∀ token, first.get? token = second.get? token) (blueprint : Blueprint) :
    blueprint.render first = blueprint.render second := by
  rw [render, render, resolve_congr fun r _ ↦ h r.token]

namespace Setting

/-! ## Files and their texts -/

/-- What the library says about a file. -/
def answer (setting : Setting) (blueprint : Bool) (file : Path) (overrides : Overrides) :
    Run CompileError Json :=
  if blueprint then setting.renderFile file overrides else setting.compileFile file

variable {setting : Setting} {file : Path} {text : Text}

theorem answer_congr {first second : Overrides} (h : ∀ token, first.get? token = second.get? token)
    (setting : Setting) (blueprint : Bool) (file : Path) :
    setting.answer blueprint file first = setting.answer blueprint file second := by
  rw [answer, answer, renderFile, renderFile]
  simp only [Blueprint.render_congr h]

theorem parseFile_of_ok (h : setting.source file = .ok text) (kind : DocumentKind) :
    setting.parseFile kind file =
      Run.note (.read file) >>= fun _ ↦
        setting.parseText kind ((Path.parent? file).getD ".") text := by
  rw [parseFile, Source.readLines, h]
  rfl

theorem finish_note (event : Event) (parsed : Run ParseError Blueprint)
    (form : Blueprint → Except ContentError Json) :
    finish (Run.note event >>= fun _ ↦ parsed) form =
      Run.note event >>= fun _ ↦ finish parsed form := by
  obtain ⟨events, _ | document⟩ := parsed <;> rfl

/-- **A file is its text, with templates sought from the directory of the file.** -/
theorem answer_of_ok (h : setting.source file = .ok text) (blueprint : Bool)
    (overrides : Overrides) :
    setting.answer blueprint file overrides =
      Run.note (.read file) >>= fun _ ↦
        if blueprint then setting.renderText ((Path.parent? file).getD ".") text overrides
        else setting.compileText ((Path.parent? file).getD ".") text := by
  rw [answer, renderFile, compileFile, parseFile_of_ok h, parseFile_of_ok h, finish_note,
    finish_note]
  cases blueprint <;> rfl

end Setting

namespace Program

/-- The configuration without a file is the default one. -/
inductive Configures (source : Source) : Option Path → Config → Prop
  | default : Configures source none {}
  | file {path : Path} {config : Config} :
    Config.load source path = .ok config → Configures source (some path) config

variable {world : World} {options : Options} {file : Path} {text : Text} {config : Config}

theorem config_eq (h : Configures world.source options.config config) :
    Program.config world options = ⟨options.config.toList.map .read, .ok config⟩ := by
  rw [Program.config]
  generalize options.config = chosen at h
  cases h with
  | default => rfl
  | file hload =>
    dsimp only
    rw [hload]
    rfl

theorem text_eq (hfile : options.input = some file) (htext : world.source file = .ok text) :
    Program.text world options = ⟨[.read file], .ok text⟩ := by
  rw [Program.text, hfile]
  dsimp only
  rw [readFile, htext]
  rfl

/-- What is printed for a value. -/
def printed (compact : Bool) (value : Json) : Text :=
  (if compact then value.compact else value.pretty) ++ ['\n']

/-- The setting in which the library sees the same world. -/
def World.setting (world : World) (config : Config) : Setting :=
  ⟨world.source, config, world.now⟩

/-- **The program asks for its configuration, and then for what the library asks for**, and it ends
as the library does. -/
theorem perform_eq (hfile : options.input = some file) (htext : world.source file = .ok text)
    (hconfig : Configures world.source options.config config) :
    perform world options =
      ⟨options.config.toList.map .read ++
          ((world.setting config).answer options.blueprint file options.overrides).events,
        (((world.setting config).answer options.blueprint file options.overrides).result.mapError
          (Failure.ofCompileError text file)).map (printed options.compact)⟩ := by
  have hdirectory : directory options = (Path.parent? file).getD "." := by
    rw [directory, hfile]
    rfl
  have hname : shownName options = file := by
    rw [shownName, hfile]
    rfl
  rw [perform, config_eq hconfig, Run.bind_ok, text_eq hfile htext, Run.bind_ok, hdirectory, hname,
    Setting.answer_of_ok htext, World.setting]
  dsimp only
  generalize (if options.blueprint = true then _ else _ : Run CompileError Json) = compiled
  obtain ⟨events, error | value⟩ := compiled
  · rfl
  · simp [Run.note, Run.mapError, Except.mapError, Except.map, printed]

/-! ## Command lines -/

/-- The program leaves this behind for an answer of the library about a file with a text. -/
inductive Shows (compact : Bool) (file : Path) (text : Text) :
    Except CompileError Json → Outcome → Prop
  | value (value : Json) : Shows compact file text (.ok value)
    { exitCode := 0, output := printed compact value, errors := [] }
  | parse (error : ParseError) : Shows compact file text (.error (.parse error))
    { exitCode := 1, output := [], errors := error.report text file }
  | content (error : ContentError) : Shows compact file text (.error (.content error))
    { exitCode := 1, output := [], errors := "Error: " ++ error.message ++ ['\n'] }

theorem shows_ofResult (compact : Bool) (file : Path) (text : Text)
    (result : Except CompileError Json) :
    Shows compact file text result (.ofResult
      ((result.mapError (Failure.ofCompileError text file)).map (printed compact))) := by
  match result with
  | .ok value => exact .value value
  | .error (.parse error) => exact .parse error
  | .error (.content error) => exact .content error

/-- **The program answers as the library does.**

Take options with an input file that can be read, a valid configuration file or none, and any values
for tokens, and let `map` hold the last value of every token.  There is a command line for them
unless a token has an equals sign or a file no name.  Whatever the command line is, the program asks
for the configuration and then for the same files as the library in the same order.  If the library
has a value, the program prints it and exits with 0; else it prints nothing, reports the error of the
library, and exits with 1. -/
theorem run_agrees (hfile : options.input = some file) (htext : world.source file = .ok text)
    (hconfig : Configures world.source options.config config) {map : Overrides}
    (hmap : ∀ token value, map.get? token = some value ↔ options.overrides.Last token value) :
    (options.Valid ↔ ∃ arguments, Options.Asked arguments options) ∧
      ∀ arguments, Options.Asked arguments options →
        (run world arguments).1 = options.config.toList ++
            ((world.setting config).answer options.blueprint file map).reads ∧
          Shows options.compact file text
            ((world.setting config).answer options.blueprint file map).result
            (run world arguments).2 := by
  refine ⟨Options.valid_iff, fun arguments hasked ↦ ?_⟩
  have hget (token : Text) : map.get? token = options.overrides.get? token :=
    Option.ext fun value ↦ (hmap token value).trans Overrides.get?_eq_some_iff.symm
  rw [Setting.answer_congr hget, run, Options.read_eq_ok_iff.mpr hasked]
  dsimp only
  rw [perform_eq hfile htext hconfig]
  refine ⟨?_, shows_ofResult ..⟩
  have hreads : List.filterMap (Event.asked? ∘ Event.read) options.config.toList =
      options.config.toList := List.filterMap_some
  rw [Run.reads, List.filterMap_append, List.filterMap_map, hreads, Run.reads]

/-- A blueprint with a template next to it, and a configuration that says what templates are
called. -/
def shelf : World where
  source := MemoryFiles.source ⟨[("c.toml", "[templates]\nsuffix = \"tpl\""),
    ("d/a.dem", "@template t\n@replace who\n# Hi\nwho"), ("d/t.tpl.dem", "%1")]⟩
  input := .ok []
  now := []

/-- Two values for one token, the second one with an equals sign. -/
def orders : Options where
  input := some "d/a.dem"
  blueprint := true
  overrides := [("who", "x"), ("who", "y=z")]
  config := some "c.toml"
  compact := true

/-- A command line for them that writes options in several ways. -/
def ordering : List Text :=
  ["-bc", "c.toml", "-swho=x", "--set", "who=y=z", "--compact", "d/a.dem"]

/-- The second value counts, and the template is found next to the blueprint. -/
theorem run_agrees_shelf :
    orders.input = some "d/a.dem".toList ∧
    shelf.source "d/a.dem" = .ok "@template t\n@replace who\n# Hi\nwho".toList ∧
    Configures shelf.source orders.config { suffix := "tpl" } ∧
    (∀ token value, Overrides.get? [("who", "y=z")] token = some value ↔
      orders.overrides.Last token value) ∧
    Options.Asked ordering orders ∧
    ∃ value : Json,
      value = .object [("title", .text "Hi".toList), ("description", .text "y=z".toList),
        ("color", .ofNat 0x010101)] ∧
      ((shelf.setting { suffix := "tpl" }).renderFile "d/a.dem" [("who", "y=z")]).result
        = .ok value ∧
      (run shelf ordering).2 = { exitCode := 0, output := value.compact ++ ['\n'] } := by
  have htext : shelf.source "d/a.dem" = .ok "@template t\n@replace who\n# Hi\nwho".toList := by
    decide +kernel
  have hconfig : Configures shelf.source orders.config { suffix := "tpl" } :=
    .file (by decide +kernel)
  have hmap (token value : Text) : Overrides.get? [("who", "y=z")] token = some value ↔
      orders.overrides.Last token value := by
    rw [← Overrides.get?_eq_some_iff]
    simp only [orders, Overrides.get?, List.reverse_cons, List.reverse_nil, List.nil_append,
      List.cons_append, List.lookup_cons]
    split <;> rfl
  have hasked : Options.Asked ordering orders := Options.read_eq_ok_iff.mp (by decide +kernel)
  have hvalue : ((shelf.setting { suffix := "tpl" }).renderFile "d/a.dem"
      [("who", "y=z")]).result = .ok (.object [("title", .text "Hi".toList),
        ("description", .text "y=z".toList), ("color", .ofNat 0x010101)]) :=
    Setting.finish_eq_ok_iff.mpr ⟨{
      embed := {
        title := "Hi".toList, text := " who".toList, attributes := { color := 0x010101 } }
      replacements := [⟨"who".toList, none⟩] }, by decide +kernel, rfl⟩
  obtain ⟨-, hrun⟩ := @run_agrees shelf orders _ _ _ rfl htext hconfig _ hmap
  obtain ⟨-, hshows⟩ := hrun ordering hasked
  have hblueprint : orders.blueprint = true := rfl
  rw [Setting.answer, if_pos hblueprint, hvalue] at hshows
  generalize (run shelf ordering).2 = outcome at hshows ⊢
  cases hshows
  exact ⟨rfl, htext, hconfig, hmap, hasked, _, rfl, hvalue, rfl⟩

end Program
end ChatEmbed

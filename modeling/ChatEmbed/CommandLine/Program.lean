import ChatEmbed.CommandLine.Options
import ChatEmbed.Compiler
import ChatEmbed.ConfigFile
import ChatEmbed.Json.Printer
import ChatEmbed.Report.Basic

/-!
# The program

The program compiles a file or its standard input and prints the JSON form.

* `Failure` is what can go wrong, with what is then written to the standard error.
* `Options.run` does what a command line asks for; `Program.run` reads the command line first.
* `Program.Outcome` is what the program leaves behind.
-/

set_option autoImplicit false

namespace ChatEmbed
namespace Program

/-- What can go wrong. -/
inductive Failure
  | config (path : Path) (error : ConfigError)
  | file (path : Path) (cause : ReadFailure)
  | input (cause : ReadFailure)
  /-- An error in the document, which is shown under a file name. -/
  | parse (error : ParseError) (shown name : Text)
  | content (error : ContentError)
deriving DecidableEq, Repr

/-- What is written to the standard error. -/
def Failure.report : Failure → Text
  | .config path error => "Error loading config '" ++ path ++ "': " ++ error.message ++ ['\n']
  | .file path cause => "Error reading file '" ++ path ++ "': " ++ cause.message ++ ['\n']
  | .input cause => "Error reading from stdin: " ++ cause.message ++ ['\n']
  | .parse error shown name => error.report shown name
  | .content error => "Error: " ++ error.message ++ ['\n']

/-- What a program can see: the files, its standard input, and the current time in its written
form. -/
structure World where
  source : Source
  input : Except ReadFailure Text
  now : Text

/-- The text of a file. -/
def readFile (world : World) (path : Path) : Run ReadFailure Text := do
  Run.note (.read path)
  Run.ofExcept (world.source path)

/-- The configuration that the options name. -/
def config (world : World) (options : Options) : Run Failure Config :=
  match options.config with
  | none => pure {}
  | some path => do
    Run.note (.read path)
    (Run.ofExcept (Config.load world.source path)).mapError (.config path)

/-- The text to compile. -/
def text (world : World) (options : Options) : Run Failure Text :=
  match options.input with
  | some path => (readFile world path).mapError (.file path)
  | none => (Run.ofExcept world.input).mapError .input

/-- The name that the text is shown under. -/
def shownName (options : Options) : Text :=
  options.input.getD "<stdin>"

/-- The directory that templates are sought from: that of the input file. -/
def directory (options : Options) : Path :=
  (options.input.bind Path.parent?).getD "."

/-- The failure that an error of the compiler is. -/
def Failure.ofCompileError (shown name : Text) : CompileError → Failure
  | .parse error => .parse error shown name
  | .content error => .content error

/-- What the options ask for: the text for the standard output. -/
def perform (world : World) (options : Options) : Run Failure Text := do
  let config ← config world options
  let text ← text world options
  let setting : Setting := ⟨world.source, config, world.now⟩
  let compiled :=
    if options.blueprint then setting.renderText (directory options) text options.overrides
    else setting.compileText (directory options) text
  let value ← compiled.mapError (Failure.ofCompileError text (shownName options))
  return (if options.compact then value.compact else value.pretty) ++ ['\n']

/-! ## From arguments to an outcome -/

/-- What the program leaves behind. -/
structure Outcome where
  exitCode : Nat
  output : Text := []
  errors : Text := []
deriving DecidableEq, Repr

/-- How the program is called. -/
def usage : Text :=
  "Usage: embed-markup [OPTIONS] [INPUT]"

/-- Lines of text, each ended by a line feed. -/
def unlines (lines : List Text) : Text :=
  lines.flatMap fun line => line ++ ['\n']

/-- The explanation of the options. -/
def help : Text :=
  unlines
    ["Compile embed markup into embed JSON", "", usage, "", "Arguments:",
      "  [INPUT]  Input file (reads from stdin if not provided)", "", "Options:",
      "  -b, --blueprint          Treat the input as a blueprint and substitute its placeholders",
      "  -s, --set <TOKEN=VALUE>  Blueprint replacement as TOKEN=VALUE",
      "  -c, --config <CONFIG>    Compiler configuration file (TOML format)",
      "      --compact            Print JSON on a single line",
      "  -h, --help               Print help"]

/-- What is written for arguments that are not understood. -/
def usageError : Text :=
  unlines
    ["error: invalid arguments", "", usage, "", "For more information, try '--help'."]

/-- The outcome of a run. -/
def Outcome.ofResult : Except Failure Text → Outcome
  | .ok output => { exitCode := 0, output }
  | .error failure => { exitCode := 1, errors := failure.report }

/-- What the program does with its arguments: the files it asks for, and its outcome. -/
def run (world : World) (arguments : List Text) : List Path × Outcome :=
  match Options.read arguments with
  | .error .usage => ([], { exitCode := 2, errors := usageError })
  | .error .help => ([], { exitCode := 0, output := help })
  | .ok options =>
    let run := perform world options
    (run.reads, Outcome.ofResult run.result)

end Program
end ChatEmbed

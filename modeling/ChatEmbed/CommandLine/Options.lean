import ChatEmbed.Blueprint
import ChatEmbed.Path

/-!
# Options of the command line

* `Options` is what a command line asks for.
* `Options.read` reads the arguments from left to right. An option that takes a value has it in the
  same argument or in the next one, which then must not look like an option itself. After `--` no
  argument is an option.
-/

set_option autoImplicit false

namespace ChatEmbed

/-- What a command line asks for. -/
structure Options where
  /-- The file to compile; the standard input if there is none. -/
  input : Option Path := none
  /-- Whether the input is a blueprint to be rendered. -/
  blueprint : Bool := false
  /-- The values for placeholders. -/
  overrides : Overrides := []
  config : Option Path := none
  /-- Whether the output is one line. -/
  compact : Bool := false
deriving DecidableEq, Repr

namespace Options

/-- Why there is nothing to do. -/
inductive Stop
  /-- The arguments are not understood. -/
  | usage
  /-- An explanation is asked for. -/
  | help
deriving DecidableEq, Repr

/-- An option that takes a value. -/
inductive Valued
  | set
  | config
deriving DecidableEq, Repr

/-- An option that takes none. -/
inductive Switch
  | blueprint
  | compact
  | help
deriving DecidableEq, Repr

/-- The option of a letter. -/
def ofLetter? : Char → Option (Switch ⊕ Valued)
  | 'b' => some (.inl .blueprint)
  | 'h' => some (.inl .help)
  | 's' => some (.inr .set)
  | 'c' => some (.inr .config)
  | _ => none

/-- The option of a name. -/
def ofName? (name : Text) : Option (Switch ⊕ Valued) :=
  if name = "blueprint".toList then some (.inl .blueprint)
  else if name = "compact".toList then some (.inl .compact)
  else if name = "help".toList then some (.inl .help)
  else if name = "set".toList then some (.inr .set)
  else if name = "config".toList then some (.inr .config)
  else none

/-! ## One option -/

/-- The options with a switch turned on, which must not be on already. -/
def turnOn (options : Options) : Switch → Except Stop Options
  | .help => .error .help
  | .blueprint => if options.blueprint then .error .usage else .ok { options with blueprint := true }
  | .compact => if options.compact then .error .usage else .ok { options with compact := true }

/-- The options with a value: one more `token=value`, or the only configuration file. -/
def give (options : Options) (value : Text) : Valued → Except Stop Options
  | .set =>
    match Text.cut? '=' value with
    | some pair => .ok { options with overrides := options.overrides ++ [pair] }
    | none => .error .usage
  | .config =>
    if options.config.isSome ∨ value = [] then .error .usage
    else .ok { options with config := some value }

/-- The options with an input file, of which there is only one. -/
def addInput (options : Options) (file : Path) : Except Stop Options :=
  if options.input.isSome ∨ file = [] then .error .usage
  else .ok { options with input := some file }

/-- The options after one argument of letters, and the option that still wants a value. A value
stands behind its letter, with or without an equals sign. -/
def letters (options : Options) : Text → Except Stop (Options × Option Valued)
  | [] => .ok (options, none)
  | c :: rest =>
    match ofLetter? c with
    | none => .error .usage
    | some (.inl switch) => do
      let options ← options.turnOn switch
      letters options rest
    | some (.inr valued) =>
      match rest with
      | [] => .ok (options, some valued)
      | '=' :: value => (options.give value valued).map fun options => (options, none)
      | value => (options.give value valued).map fun options => (options, none)

/-- The options after one argument with a name, and the option that still wants a value. -/
def named (options : Options) (s : Text) : Except Stop (Options × Option Valued) :=
  let (name, value) := match Text.cut? '=' s with
    | some (name, value) => (name, some value)
    | none => (s, none)
  match ofName? name, value with
  | some (.inl switch), none => (options.turnOn switch).map fun options => (options, none)
  | some (.inr valued), some value => (options.give value valued).map fun options => (options, none)
  | some (.inr valued), none => .ok (options, some valued)
  | _, _ => .error .usage

/-! ## All arguments -/

/-- The options after arguments of which none is an option. -/
def addInputs (options : Options) : List Text → Except Stop Options
  | [] => .ok options
  | file :: rest => do
    let options ← options.addInput file
    addInputs options rest

/-- Whether an argument looks like an option. -/
def looksLikeOption : Text → Bool
  | '-' :: _ :: _ => true
  | _ => false

/-- The options after the arguments, the first of which is the value that an option still wants. -/
def readFrom (options : Options) : Option Valued → List Text → Except Stop Options
  | none, [] => .ok options
  | some _, [] => .error .usage
  | some valued, value :: rest =>
    if looksLikeOption value then .error .usage
    else do
      let options ← options.give value valued
      readFrom options none rest
  | none, argument :: rest =>
    match argument with
    | ['-', '-'] => addInputs options rest
    | '-' :: '-' :: s => do
      let (options, wanting) ← options.named s
      readFrom options wanting rest
    | '-' :: c :: s => do
      let (options, wanting) ← options.letters (c :: s)
      readFrom options wanting rest
    | file => do
      let options ← options.addInput file
      readFrom options none rest

/-- What the arguments ask for. -/
def read (arguments : List Text) : Except Stop Options :=
  readFrom {} none arguments

end Options
end ChatEmbed

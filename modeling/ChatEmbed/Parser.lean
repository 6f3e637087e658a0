import ChatEmbed.Config
import ChatEmbed.Edit
import ChatEmbed.Line.Basic
import ChatEmbed.ParseError
import ChatEmbed.Run
import ChatEmbed.Timestamp

/-!
# Parsing documents

Every line is understood on its own: it asks for a template or makes an edit, or it is at fault.
A template is a file of lines that supply attributes, and its lines may ask for templates in turn.

* `Directive.read` says what a line asks for in a kind of document.
* `loadTemplate` reads a template from a directory. It keeps the chain of templates being read:
  none is entered twice, and the chain is never longer than the limit.
* `parseLines` parses the lines of a document, `parseText` a text and `parseFile` a file.
-/

set_option autoImplicit false

namespace ChatEmbed

/-- What a line asks for. -/
inductive Directive
  | edit (made : Edit)
  /-- Fill in the attributes of a template. -/
  | includeTemplate (name : Text)
deriving DecidableEq, Repr

namespace Directive

/-- A line of content, which a template cannot have. -/
def content (kind : DocumentKind) (raw : Text) (edit : Edit) : Except LineFault Directive :=
  if kind = .template then .error (.contentInTemplate (Text.trim raw)) else .ok (.edit edit)

/-- A command that only some kinds of document can have. -/
def allowIf (allowed : Bool) (kind : DocumentKind) (name : Text) (edit : Edit) :
    Except LineFault Directive :=
  if allowed then .ok (.edit edit) else .error (.notAllowed name kind)

/-- What a command asks for. -/
def ofCommand (kind : DocumentKind) (name argument : Text) : Except LineFault Directive :=
  match Command.decode name argument with
  | .error .unknown => .error (.unknownCommand name)
  | .error (.color fault) => .error (.invalidColor argument fault)
  | .error .replacement => .error (.invalidReplacement argument)
  | .ok (.set key value) => .ok (.edit (.set key value))
  | .ok (.color value) => .ok (.edit (.color value))
  | .ok (.includeTemplate template) => .ok (.includeTemplate template)
  | .ok (.image url) => allowIf (kind ≠ .template) kind name (.image url)
  | .ok (.name symbol) =>
    allowIf (kind ≠ .template) kind name (.name (if symbol = [] then none else some symbol))
  | .ok (.replace declaration) => allowIf (kind = .blueprint) kind name (.declare declaration)

/-- What a line asks for, given its kind and the line as it was written. -/
def ofLine (kind : DocumentKind) (now raw : Text) : Line → Except LineFault Directive
  | .text [] => .ok (.edit .blank)
  | .text text => content kind raw (.write text)
  | .heading title => content kind raw (.title title)
  | .subheading title => content kind raw (.field title)
  | .command name argument => ofCommand kind name argument
  | .color argument =>
    match Color.read argument with
    | .ok value => .ok (.edit (.color value))
    | .error fault => .error (.invalidColor argument fault)
  | .timestamp argument =>
    match Timestamp.read now argument with
    | some time => .ok (.edit (.timestamp time))
    | none => .error (.invalidTimestamp argument)

/-- What a source line asks for. -/
def read (kind : DocumentKind) (now raw : Text) : Except LineFault Directive :=
  ofLine kind now raw (Line.classify raw)

end Directive

/-! ## The edits of a list of lines -/

/-- The edit that a directive makes, `load` being the way to templates. A template that does not
exist supplies nothing. -/
def Directive.resolve (load : Text → Run ParseError (Option Template)) :
    Directive → Run ParseError Edit
  | .edit made => pure made
  | .includeTemplate name => do
    let template ← load name
    return .fill ((template.map Template.attributes).getD {})

/-- The edit that one line makes. A fault of the line is given its place. -/
def lineEdit (load : Text → Run ParseError (Option Template)) (kind : DocumentKind) (now : Text)
    (number : Nat) (span : Span) (raw : Text) : Run ParseError Edit :=
  match Directive.read kind now raw with
  | .ok directive => directive.resolve load
  | .error fault => Run.fail (.line number span fault)

/-- The edits that the lines make, the first line having the given number and offset. The lines are
chomped, and each counts one byte for its terminator. -/
def lineEdits (load : Text → Run ParseError (Option Template)) (kind : DocumentKind) (now : Text) :
    Nat → Nat → List Text → Run ParseError (List Edit)
  | _, _, [] => pure []
  | number, offset, line :: rest => do
    let raw := Text.chomp line
    let stop := offset + Text.byteSize raw
    let first ← lineEdit load kind now number ⟨offset, stop⟩ raw
    let others ← lineEdits load kind now (number + 1) (stop + 1) rest
    return first :: others

/-- The document that the lines make. -/
def documentOfLines (load : Text → Run ParseError (Option Template)) (kind : DocumentKind)
    (now : Text) (lines : List Text) : Run ParseError Blueprint := do
  let edits ← lineEdits load kind now 1 0 lines
  return (Draft.ofEdits edits).blueprint

/-! ## Templates -/

/-- What a parse can see: the files, how templates are found, and the current time in its written
form. -/
structure Setting where
  source : Source
  config : Config := {}
  now : Text := []

/-- The template of the given name, included from a directory while the templates of the chain are
being read, with room for some more. Of two faults, a cycle is found before the limit. -/
def loadTemplate (setting : Setting) :
    Nat → List Path → Path → Text → Run ParseError (Option Template)
  | room, chain, dir, name =>
    let path := setting.config.templatePath dir name
    if path ∈ chain then Run.fail (.cyclic (chain ++ [path]))
    else match room with
      | 0 => Run.fail (.tooDeep path setting.config.maxDepth)
      | room + 1 => do
        Run.note (.read path)
        match setting.source.readLines path with
        | .error failure =>
          if failure.isMissing then pure none else Run.fail (.unreadable path failure)
        | .ok lines =>
          let load := loadTemplate setting room (chain ++ [path]) ((Path.parent? path).getD [])
          let document ← Run.between (.enter path) (.leave path)
            ((documentOfLines load .template setting.now lines).mapError (.inTemplate path))
          return some ⟨path, document.embed.attributes⟩

namespace Setting

/-- The template of the given name, included from a directory by a document that is no template. -/
def template (setting : Setting) (dir : Path) (name : Text) : Run ParseError (Option Template) :=
  loadTemplate setting setting.config.maxDepth [] dir name

/-! ## Documents -/

/-- The document that the lines make, with templates sought from a directory. -/
def parseLines (setting : Setting) (kind : DocumentKind) (dir : Path) (lines : List Text) :
    Run ParseError Blueprint :=
  documentOfLines (setting.template dir) kind setting.now lines

/-- The document of a text, with templates sought from a directory. -/
def parseText (setting : Setting) (kind : DocumentKind) (dir : Path) (text : Text) :
    Run ParseError Blueprint :=
  setting.parseLines kind dir (Text.lines text)

/-- The document of a file, with templates sought from its directory. Unlike a missing template, a
missing file is an error. -/
def parseFile (setting : Setting) (kind : DocumentKind) (path : Path) :
    Run ParseError Blueprint := do
  Run.note (.read path)
  match setting.source.readLines path with
  | .error failure => Run.fail (.unreadable path failure)
  | .ok lines => setting.parseLines kind ((Path.parent? path).getD ".") lines

/-- The template of a file on its own. -/
def parseTemplateFile (setting : Setting) (path : Path) : Run ParseError Template := do
  let document ← setting.parseFile .template path
  return ⟨path, document.embed.attributes⟩

end Setting
end ChatEmbed

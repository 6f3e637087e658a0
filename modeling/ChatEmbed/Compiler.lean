import ChatEmbed.Blueprint
import ChatEmbed.Parser

/-!
# From markup to JSON

* `CompileError` joins the errors of parsing and of content.
* `Setting.compileText` and `Setting.compileFile` give the JSON form of a document,
  `Setting.renderText` that of a blueprint with values for its placeholders.
-/

set_option autoImplicit false

namespace ChatEmbed

/-- Why there is no JSON form. -/
inductive CompileError
  | parse (error : ParseError)
  | content (error : ContentError)
deriving DecidableEq, Repr

/-- The error in words. -/
def CompileError.message : CompileError → Text
  | .parse error => error.message
  | .content error => error.message

namespace Setting

/-- The document of a run, turned into JSON. -/
def finish (parsed : Run ParseError Blueprint) (form : Blueprint → Except ContentError Json) :
    Run CompileError Json := do
  let document ← parsed.mapError .parse
  (Run.ofExcept (form document)).mapError .content

/-- The JSON form of the embed that a text describes. -/
def compileText (setting : Setting) (dir : Path) (text : Text) : Run CompileError Json :=
  finish (setting.parseText .embed dir text) fun document => document.embed.payload

/-- The JSON form of the embed that a file describes. -/
def compileFile (setting : Setting) (path : Path) : Run CompileError Json :=
  finish (setting.parseFile .embed path) fun document => document.embed.payload

/-- The JSON form of the blueprint that a text describes. -/
def renderText (setting : Setting) (dir : Path) (text : Text) (overrides : Overrides) :
    Run CompileError Json :=
  finish (setting.parseText .blueprint dir text) fun document => document.render overrides

/-- The JSON form of the blueprint that a file describes. -/
def renderFile (setting : Setting) (path : Path) (overrides : Overrides) :
    Run CompileError Json :=
  finish (setting.parseFile .blueprint path) fun document => document.render overrides

end Setting
end ChatEmbed

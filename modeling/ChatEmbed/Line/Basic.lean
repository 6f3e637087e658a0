import ChatEmbed.Line.Comment

/-!
# Kinds of lines

A source line loses its comment and the blank characters around it; what its first characters are
then decides its kind.

* `Line` is a line of one of six kinds, with what it carries.
* `Line.classify` reads a line, `Line.write` gives the text of a line in its plainest form.
* `Line.isDirective` tells lines that set something from lines of content.
-/

set_option autoImplicit false

namespace ChatEmbed

/-- A source line, sorted by what it is for. -/
inductive Line
  /-- The title of the embed. -/
  | heading (title : Text)
  /-- The title of a new field. -/
  | subheading (title : Text)
  /-- A named command with its argument, which may be empty. -/
  | command (name argument : Text)
  /-- The short form of a color command. -/
  | color (argument : Text)
  /-- The time of the embed. -/
  | timestamp (argument : Text)
  /-- Anything else, possibly empty. -/
  | text (content : Text)
deriving DecidableEq, Repr

namespace Line

/-- Whether the line sets something; all other lines are text. -/
def isDirective : Line → Bool
  | .text _ => false
  | _ => true

/-- The name and the argument of a command: what stands before and after the first space. -/
def splitCommand (s : Text) : Text × Text :=
  (Text.cut? ' ' s).getD (s, [])

/-- The kind of a line whose comment and surrounding blanks are gone. -/
def ofContent (s : Text) : Line :=
  match Text.dropStart? "# " s, Text.dropStart? "## " s, s with
  | some title, _, _ => .heading title
  | none, some title, _ => .subheading title
  | none, none, '@' :: rest => .command (splitCommand rest).1 (splitCommand rest).2
  | none, none, '%' :: argument => .color argument
  | none, none, '?' :: argument => .timestamp argument
  | none, none, s => .text s

/-- The kind of a source line. -/
def classify (raw : Text) : Line :=
  ofContent (Text.trim (Comment.strip raw).1)

/-- The plainest text of a line: its mark followed by what it carries. -/
def write : Line → Text
  | .heading title => "# " ++ title
  | .subheading title => "## " ++ title
  | .command name [] => '@' :: name
  | .command name argument => '@' :: name ++ ' ' :: argument
  | .color argument => '%' :: argument
  | .timestamp argument => '?' :: argument
  | .text content => content

end Line
end ChatEmbed

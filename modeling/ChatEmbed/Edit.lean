import ChatEmbed.Document

/-!
# Edits and drafts

A document is built up by edits, one for each of its lines.

* `Edit` is the effect of one line, `Draft` a document as far as it has been built.
* `Draft.apply` makes one edit, `Draft.ofEdits` all of them, starting from nothing.
* Text goes to whatever the last heading opened. A text is joined to what is there by a space, or
  by a line feed if the last text line before it was blank.
-/

set_option autoImplicit false

namespace ChatEmbed

/-- The effect of one line on the document. -/
inductive Edit
  /-- A blank line: the next text starts a new paragraph. -/
  | blank
  /-- A text line, not empty. -/
  | write (text : Text)
  /-- The title of the embed; text goes to its body from here on. -/
  | title (title : Text)
  /-- A new field; text goes to it from here on. -/
  | field (title : Text)
  | set (key : Attribute) (value : Text)
  | color (value : Nat)
  | timestamp (time : Text)
  /-- The attributes of a template, taken over where none are set. -/
  | fill (defaults : Attributes)
  | image (url : Text)
  | name (symbol : Option Text)
  /-- A placeholder; declared again, it keeps its place and gets the new default. -/
  | declare (declaration : Replacement)
deriving DecidableEq, Repr

/-- Where text goes. -/
inductive Target
  /-- No heading yet: text is dropped. -/
  | nowhere
  | body
  /-- The field at this index, counted from 0. -/
  | field (index : Nat)
deriving DecidableEq, Repr

/-- A document as far as it has been built. -/
structure Draft where
  blueprint : Blueprint := {}
  target : Target := .nowhere
  /-- Whether the last text line was blank. -/
  afterBlank : Bool := false
deriving DecidableEq, Repr

/-- The field with a text put at its end. -/
def Field.append (added : Text) (field : Field) : Field :=
  { field with text := field.text ++ added }

/-- The placeholders with one more, or with a new default for one of them. -/
def Replacement.declare (declaration : Replacement) : List Replacement → List Replacement
  | [] => [declaration]
  | first :: rest =>
    if first.token = declaration.token then declaration :: rest
    else first :: declare declaration rest

namespace Draft

/-- The character that joins a text to the text before it. -/
def separator (draft : Draft) : Char :=
  if draft.afterBlank then '\n' else ' '

/-- The embed with a text put at the end of its active part. -/
def appendText (target : Target) (added : Text) (embed : Embed) : Embed :=
  match target with
  | .nowhere => embed
  | .body => { embed with text := embed.text ++ added }
  | .field index => { embed with fields := embed.fields.modify index (Field.append added) }

/-- The draft with its embed changed. -/
def mapEmbed (f : Embed → Embed) (draft : Draft) : Draft :=
  { draft with blueprint := { draft.blueprint with embed := f draft.blueprint.embed } }

/-- The draft with its attributes changed. -/
def mapAttributes (f : Attributes → Attributes) (draft : Draft) : Draft :=
  draft.mapEmbed fun embed => { embed with attributes := f embed.attributes }

/-- The draft after one more edit. -/
def apply (draft : Draft) : Edit → Draft
  | .blank => { draft with afterBlank := true }
  | .write text =>
    { draft.mapEmbed (appendText draft.target (draft.separator :: text)) with afterBlank := false }
  | .title title => { draft.mapEmbed fun embed => { embed with title } with target := .body }
  | .field title =>
    { draft.mapEmbed fun embed => { embed with fields := embed.fields ++ [{ title }] } with
      target := .field draft.blueprint.embed.fields.length }
  | .set key value => draft.mapAttributes (·.set key value)
  | .color value => draft.mapAttributes ({ · with color := value })
  | .timestamp time => draft.mapAttributes ({ · with timestamp := time })
  | .fill defaults => draft.mapAttributes (·.fillFrom defaults)
  | .image url => draft.mapEmbed ({ · with image := url })
  | .name symbol => draft.mapEmbed ({ · with name := symbol })
  | .declare declaration =>
    { draft with blueprint :=
      { draft.blueprint with
        replacements := declaration.declare draft.blueprint.replacements } }

/-- The draft that the edits build from nothing. -/
def ofEdits (edits : List Edit) : Draft :=
  edits.foldl apply {}

end Draft
end ChatEmbed

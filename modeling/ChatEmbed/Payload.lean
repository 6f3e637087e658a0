import ChatEmbed.ContentError
import ChatEmbed.Document
import ChatEmbed.Json.Basic

/-!
# The JSON form of an embed

The text of a field may end with a marker that puts the field next to others on one line.

* `Field.isInline` finds the marker, `Field.value` is the text without it.
* `Field.payload` and `Embed.payload` are the JSON forms. Only what is set has an entry, and the
  title and text of an embed and of each field have to be there.
-/

set_option autoImplicit false

namespace ChatEmbed

namespace Field

/-- The marker at the end of the text of a field that stands next to others. -/
def marker : Char := '&'

/-- Whether the text of a field ends with a marker that has no backslash before it. -/
def isInline (field : Field) : Bool :=
  let text := Text.trim field.text
  (Text.dropEnd? [marker] text).isSome && (Text.dropEnd? ['\\', marker] text).isNone

/-- The text of a field without its marker; a marker with a backslash before it is an ordinary
character. -/
def value (field : Field) : Text :=
  let text := Text.trim field.text
  match Text.dropEnd? ['\\', marker] text, Text.dropEnd? [marker] text with
  | some escaped, _ => escaped ++ [marker]
  | none, some content => Text.trimEnd content
  | none, none => text

/-- The JSON form of a field. -/
def payload (field : Field) : Except ContentError Json := do
  requireFilled (.field field.title) field.title field.value
  return Json.filled
    [("name", .text field.title), ("value", .text field.value), ("inline", .bool field.isInline)]

end Field

namespace Attributes

/-- The JSON form of the footer. -/
def footerPayload (a : Attributes) : Json :=
  Json.filled [("text", .text (Text.trim a.footerText)), ("icon_url", .text a.footerIcon)]

/-- The JSON form of the author. -/
def authorPayload (a : Attributes) : Json :=
  Json.filled
    [("name", .text a.authorName), ("url", .text a.authorUrl), ("icon_url", .text a.authorIcon)]

end Attributes

/-- The JSON form of a link to a picture. -/
def picturePayload (url : Text) : Json :=
  Json.filled [("url", .text url)]

/-- The JSON form of an embed. -/
def Embed.payload (embed : Embed) : Except ContentError Json := do
  requireFilled .embed embed.title embed.text
  let fields ← embed.fields.mapM Field.payload
  let a := embed.attributes
  return Json.filled
    [("title", .text embed.title),
      ("description", .text (Text.trim embed.text)),
      ("url", .text a.url),
      ("timestamp", .text a.timestamp),
      ("color", .ofNat a.color),
      ("footer", a.footerPayload),
      ("fields", .list fields),
      ("image", picturePayload embed.image),
      ("thumbnail", picturePayload a.thumbnail),
      ("author", a.authorPayload)]

end ChatEmbed

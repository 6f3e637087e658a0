import ChatEmbed.Text.Blank

/-!
# Errors of content

A document that was parsed well can still have no title or no text, or a placeholder without a
value.

* `ContentError` is such an error, `ContentError.message` puts it in words.
* `requireFilled` finds a missing title or text.
-/

set_option autoImplicit false

namespace ChatEmbed

/-- The part of a document that an error is about. -/
inductive Part
  | embed
  | field (title : Text)
deriving DecidableEq, Repr

/-- The part in words; a field is named by its title if it has a visible one. -/
def Part.describe : Part → Text
  | .embed => "embed"
  | .field title =>
    if Text.IsBlank title then "untitled field" else "field '" ++ title ++ "'"

/-- What a document lacks. -/
inductive ContentError
  | missingTitle (part : Part)
  | missingText (part : Part)
  | missingReplacement (token : Text)
deriving DecidableEq, Repr

/-- The error in words. -/
def ContentError.message : ContentError → Text
  | .missingTitle part => "title cannot be empty (" ++ part.describe ++ ")"
  | .missingText part => "text cannot be empty (" ++ part.describe ++ ")"
  | .missingReplacement token => "missing replacement for '" ++ token ++ "'"

/-- Accepts a part whose title and text both have a visible character. -/
def requireFilled (part : Part) (title text : Text) : Except ContentError Unit :=
  if Text.IsBlank title then .error (.missingTitle part)
  else if Text.IsBlank text then .error (.missingText part)
  else .ok ()

end ChatEmbed

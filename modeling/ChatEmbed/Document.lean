import ChatEmbed.Attributes

/-!
# Documents

* `Embed` is a titled message with attributes, an image and titled fields.
* `Blueprint` is an embed with the placeholders it declares; every parse yields one.
* `Template` supplies attributes to the documents that include it.
* `DocumentKind` says which of the three a file is read as.
-/

set_option autoImplicit false

namespace ChatEmbed

/-- What a file is read as. -/
inductive DocumentKind
  | embed
  | blueprint
  /-- Only attributes: no title, text, field, image or name. -/
  | template
deriving DecidableEq, Repr

/-- The word for a kind of document. -/
def DocumentKind.word : DocumentKind → Text
  | .embed => "embed"
  | .blueprint => "blueprint"
  | .template => "template"

/-- A titled section of an embed. -/
structure Field where
  title : Text
  /-- The lines of the field, each after the separator that joins it to the one before. -/
  text : Text := []
deriving DecidableEq, Repr

/-- A titled message. -/
structure Embed where
  title : Text := []
  /-- The lines of the body, each after the separator that joins it to the one before. -/
  text : Text := []
  attributes : Attributes := {}
  image : Text := []
  fields : List Field := []
  /-- The name other documents and callers can ask for. -/
  name : Option Text := none
deriving DecidableEq, Repr

/-- A placeholder: the token that stands for a value, and the value it has by default. -/
structure Replacement where
  token : Text
  default? : Option Text := none
deriving DecidableEq, Repr

/-- An embed together with its placeholders, in the order of their first declarations. -/
structure Blueprint where
  embed : Embed := {}
  replacements : List Replacement := []
deriving DecidableEq, Repr

/-- The attributes that a template file supplies. -/
structure Template where
  path : Text
  attributes : Attributes
deriving DecidableEq, Repr

instance : Inhabited Embed := ⟨{}⟩

instance : Inhabited Blueprint := ⟨{}⟩

end ChatEmbed

import ChatEmbed.Color
import ChatEmbed.Document

/-!
# Commands

The name of a command says what its argument is for.

* `Command.decode` reads a name and an argument.
* `Replacement.read?` reads the declaration of a placeholder: a token alone, or a token with a
  question mark and the default value after it.
-/

set_option autoImplicit false

namespace ChatEmbed

/-- A command with its argument understood. -/
inductive Command
  | set (key : Attribute) (value : Text)
  | color (value : Nat)
  /-- Take over the attributes of a template. -/
  | includeTemplate (name : Text)
  | image (url : Text)
  /-- Name the document; an empty name takes the name away. -/
  | name (symbol : Text)
  | replace (declaration : Replacement)
deriving DecidableEq, Repr

/-- Why a command has no meaning. -/
inductive Command.Fault
  | unknown
  | color (fault : Color.Fault)
  | replacement
deriving DecidableEq, Repr

/-- The placeholder that a declaration introduces: `token` or `token? default`. A token is not empty
and has neither a space nor a question mark. -/
def Replacement.read? (argument : Text) : Option Replacement :=
  let (head, rest) := match Text.cut? ' ' (Text.trim argument) with
    | some (head, rest) => (head, some rest)
    | none => (Text.trim argument, none)
  let declared : Option Replacement := match Text.dropEnd? ['?'] head, rest with
    | some token, rest => some ⟨token, some (Text.trim (rest.getD []))⟩
    | none, none => some ⟨head, none⟩
    | none, some _ => none
  declared.filter fun r => !r.token.isEmpty && !r.token.contains '?'

/-- The attribute that a command of this name sets. -/
def Attribute.ofCommand? (name : Text) : Option Attribute :=
  if name = "author".toList then some .authorName
  else if name = "author&".toList then some .authorIcon
  else if name = "author?".toList then some .authorUrl
  else if name = "url".toList ∨ name = "?".toList then some .url
  else if name = "thumbnail".toList then some .thumbnail
  else if name = "footer".toList then some .footerText
  else if name = "footer&".toList then some .footerIcon
  else none

/-- The meaning of a command. -/
def Command.decode (name argument : Text) : Except Command.Fault Command :=
  match Attribute.ofCommand? name with
  | some key => .ok (.set key argument)
  | none =>
    if name = "color".toList then
      match Color.read argument with
      | .ok value => .ok (.color value)
      | .error fault => .error (.color fault)
    else if name = "template".toList then .ok (.includeTemplate (Text.trim argument))
    else if name = "image".toList then .ok (.image argument)
    else if name = "name".toList then .ok (.name (Text.trim argument))
    else if name = "replace".toList then
      match Replacement.read? argument with
      | some declaration => .ok (.replace declaration)
      | none => .error .replacement
    else .error .unknown

end ChatEmbed

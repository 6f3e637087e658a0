import ChatEmbed.Payload
import ChatEmbed.Substitution

/-!
# Rendering blueprints

* `Blueprint.resolve` finds the value of every placeholder: the caller's, or else the default.
* `Blueprint.render` substitutes them in the JSON form of the embed. Entries that have become empty
  go, and what has to be filled has to be so still.
-/

set_option autoImplicit false

namespace ChatEmbed

/-- The values that a caller gives to tokens; of two values for a token the later one counts. -/
abbrev Overrides := List Token.Pair

/-- The value given to a token. -/
def Overrides.get? (overrides : Overrides) (token : Text) : Option Text :=
  overrides.reverse.lookup token

namespace Replacement

/-- The token of a placeholder with its value. -/
def resolve (overrides : Overrides) (r : Replacement) : Except ContentError Token.Pair :=
  match overrides.get? r.token, r.default? with
  | some value, _ => .ok (r.token, value)
  | none, some value => .ok (r.token, value)
  | none, none => .error (.missingReplacement r.token)

end Replacement

/-- Accepts a JSON form whose fields all have a visible name and value. -/
def requireFields : List Json → Except ContentError Unit
  | [] => .ok ()
  | field :: rest => do
    let name := field.textAt "name"
    requireFilled (.field name) name (field.textAt "value")
    requireFields rest

/-- Accepts a JSON form that has a visible title and description, in itself and in its fields. -/
def requireRendered (value : Json) : Except ContentError Unit := do
  requireFilled .embed (value.textAt "title") (value.textAt "description")
  requireFields (value.itemsAt "fields")

namespace Blueprint

/-- The name that the document gives itself. -/
def name (blueprint : Blueprint) : Option Text :=
  blueprint.embed.name

/-- The tokens with their values, in the order of declaration. -/
def resolve (blueprint : Blueprint) (overrides : Overrides) :
    Except ContentError (List Token.Pair) :=
  blueprint.replacements.mapM (Replacement.resolve overrides)

/-- The JSON form of the embed with every placeholder replaced. -/
def render (blueprint : Blueprint) (overrides : Overrides) : Except ContentError Json := do
  let pairs ← blueprint.resolve overrides
  let base ← blueprint.embed.payload
  let value := (base.substitute pairs).prune
  requireRendered value
  return value

end Blueprint
end ChatEmbed

import ChatEmbed.Json.Basic
import ChatEmbed.Text.Decimal

/-!
# Written JSON

* `Json.quote` writes a text between quotes. Quotes, backslashes and control characters below
  U+0020 are escaped, all other characters stand for themselves.
* `Json.writeReal` writes a number in double precision with as few digits as can be.
* `Json.compact` writes a value without blanks, `Json.pretty` on several lines with an indentation
  of two spaces.
-/

set_option autoImplicit false

namespace ChatEmbed
namespace Json

/-- A hexadecimal digit. -/
def hexDigit (n : Nat) : Char :=
  Nat.digitChar n

/-- A character inside quotes. -/
def escapeChar (c : Char) : Text :=
  if c = '\"' then ['\\', '\"']
  else if c = '\\' then ['\\', '\\']
  else if c = '\n' then ['\\', 'n']
  else if c = '\r' then ['\\', 'r']
  else if c = '\t' then ['\\', 't']
  else if c.toNat = 8 then ['\\', 'b']
  else if c.toNat = 12 then ['\\', 'f']
  else if c.toNat < 32 then
    ['\\', 'u', '0', '0', hexDigit (c.toNat / 16), hexDigit (c.toNat % 16)]
  else [c]

/-- A text between quotes. -/
def quote (s : Text) : Text :=
  '\"' :: s.flatMap escapeChar ++ ['\"']

/-- The word for a truth value. -/
def writeBool (value : Bool) : Text :=
  if value then "true" else "false"

/-! ## Numbers in double precision -/

/-- A run of zeros. -/
def zeros (n : Nat) : Text :=
  List.replicate n '0'

/-- A numeral in full from `10 ^ -5` on and below `10 ^ 16`, then with a digit behind the point at
least, and else with one digit before the point and an exponent, which always has a sign. -/
def writeNumeral (numeral : Double.Numeral) : Text :=
  let digits := Text.digits numeral.digits
  let beforePoint : Int := digits.length + numeral.power
  if 0 ≤ numeral.power ∧ beforePoint ≤ 16 then digits ++ zeros numeral.power.toNat ++ ".0"
  else if 0 < beforePoint ∧ beforePoint ≤ 16 then
    digits.take beforePoint.toNat ++ '.' :: digits.drop beforePoint.toNat
  else if -5 < beforePoint ∧ beforePoint ≤ 0 then
    "0." ++ zeros (-beforePoint).toNat ++ digits
  else
    let fraction := digits.drop 1
    digits.take 1 ++ (if fraction = [] then [] else '.' :: fraction) ++
      'e' :: (if 0 < beforePoint then ['+'] else []) ++ Text.ofInt (beforePoint - 1)

/-- The shortest numeral that is read as a double, after the sign of the double. -/
def writeReal (value : Double) : Text :=
  (if value.isNegative then ['-'] else []) ++
    (if value.isZero then ['0', '.', '0'] else writeNumeral value.shortest)

/-! ## On one line -/

mutual

/-- The value without any blanks. -/
def compact : Json → Text
  | .null => "null"
  | .bool value => writeBool value
  | .number value => Text.ofInt value
  | .real value => writeReal value
  | .text value => quote value
  | .list items => '[' :: Text.join [','] (compactItems items) ++ [']']
  | .object entries => '\x7b' :: Text.join [','] (compactEntries entries) ++ ['\x7d']

/-- Every item without any blanks. -/
def compactItems : List Json → List Text
  | [] => []
  | item :: rest => compact item :: compactItems rest

/-- Every key and value without any blanks. -/
def compactEntries : List (Text × Json) → List Text
  | [] => []
  | (key, value) :: rest => (quote key ++ ':' :: compact value) :: compactEntries rest

end

/-! ## On several lines -/

/-- The blanks in front of a line at the given depth. -/
def indentation (depth : Nat) : Text :=
  List.replicate (2 * depth) ' '

/-- The parts of a list or object between brackets, each on a line of its own. -/
def bracket (left right : Char) (depth : Nat) (parts : List Text) : Text :=
  if parts.isEmpty then [left, right]
  else
    let line (part : Text) : Text := '\n' :: indentation (depth + 1) ++ part
    left :: Text.join [','] (parts.map line) ++ '\n' :: indentation depth ++ [right]

mutual

/-- The value on several lines, its first line standing at the given depth. -/
def prettyAt (depth : Nat) : Json → Text
  | .null => "null"
  | .bool value => writeBool value
  | .number value => Text.ofInt value
  | .real value => writeReal value
  | .text value => quote value
  | .list items => bracket '[' ']' depth (prettyItems (depth + 1) items)
  | .object entries => bracket '\x7b' '\x7d' depth (prettyEntries (depth + 1) entries)

/-- Every item on several lines. -/
def prettyItems (depth : Nat) : List Json → List Text
  | [] => []
  | item :: rest => prettyAt depth item :: prettyItems depth rest

/-- Every key and value on several lines. -/
def prettyEntries (depth : Nat) : List (Text × Json) → List Text
  | [] => []
  | (key, value) :: rest =>
    (quote key ++ ':' :: ' ' :: prettyAt depth value) :: prettyEntries depth rest

end

/-- The value on several lines. -/
def pretty (value : Json) : Text :=
  prettyAt 0 value

end Json
end ChatEmbed

import ChatEmbed.Text.Basic

/-!
# Decimal numerals

* `digits` writes a number without leading zeros, `padded` with at least a given count of digits.
* `value` reads a run of digits; `integer?` also reads a sign before it.
-/

set_option autoImplicit false

namespace ChatEmbed
namespace Text

/-- The decimal numeral of a number, without leading zeros. -/
def digits (n : Nat) : Text :=
  Nat.toDigits 10 n

/-- The decimal numeral with zeros in front up to the given width. -/
def padded (width n : Nat) : Text :=
  List.replicate (width - (digits n).length) '0' ++ digits n

/-- The numeral of an integer, with a sign if it is negative. -/
def ofInt : Int → Text
  | .ofNat n => digits n
  | .negSucc n => '-' :: digits (n + 1)

/-- The value of a digit character. -/
def digitValue (c : Char) : Nat :=
  c.toNat - '0'.toNat

/-- The number that a run of digits denotes, most significant digit first. -/
def value (s : Text) : Nat :=
  s.foldl (fun n c => 10 * n + digitValue c) 0

/-- The number of an unsigned numeral: one or more ASCII digits and nothing else. -/
def natural? (s : Text) : Option Nat :=
  if s.isEmpty || !s.all Char.isDigit then none else some (value s)

/-- The number of a numeral with at most one sign in front. -/
def integer? : Text → Option Int
  | '-' :: s => (natural? s).map fun n => -n
  | '+' :: s => (natural? s).map fun n => n
  | s => (natural? s).map fun n => n

end Text
end ChatEmbed

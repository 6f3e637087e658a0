import ChatEmbed.Calendar
import ChatEmbed.Toml.Tree

/-!
# Numbers, truth values and times of TOML

All of these are words of letters, digits and a few signs, so that a word can be looked at as a
whole. Only a date and a time may stand apart, with one space between them.

* `Toml.word` takes the first word of a text.
* `Toml.ofWord?` is the value of a word.
* `Toml.scalar` reads a value from the start of a text.
-/

set_option autoImplicit false

namespace ChatEmbed
namespace Toml

/-- Whether a character may stand in a word. -/
def isWordChar (c : Char) : Bool :=
  c.isAlphanum || c = '+' || c = '-' || c = '_' || c = '.' || c = ':'

/-- The first word of a text. -/
def word (s : Text) : Text :=
  s.takeWhile isWordChar

/-! ## Numbers -/

/-- The digits of a run in which single underscores may stand between digits. -/
def digitRun? (isDigit : Char → Bool) (s : Text) : Option Text :=
  let groups := Text.pieces '_' s
  if groups.all fun group => !group.isEmpty && group.all isDigit then some groups.flatten else none

/-- The digits of a run that has no zero in front, unless it is one zero. -/
def decimalRun? (s : Text) : Option Text :=
  match s with
  | '0' :: _ :: _ => none
  | s => digitRun? Char.isDigit s

/-- Whether a word begins with a minus sign, and the word without its sign. -/
def cutSign (s : Text) : Bool × Text :=
  match s with
  | '-' :: rest => (true, rest)
  | '+' :: rest => (false, rest)
  | s => (false, s)

/-- The integer, if it has 64 bits. -/
def inRange? (n : Int) : Option Toml :=
  if -Nat.pow 2 63 ≤ n ∧ n < Nat.pow 2 63 then some (.integer n) else none

/-- The value of a digit of any base up to sixteen. -/
def anyDigit (c : Char) : Nat :=
  if c.isDigit then c.toNat - '0'.toNat else c.toLower.toNat - 'a'.toNat + 10

/-- The integer that a run of digits denotes in a base. -/
def inBase? (base : Nat) (s : Text) : Option Toml := do
  let isDigit (c : Char) : Bool :=
    (c.isDigit || ('a' ≤ c.toLower && c.toLower ≤ 'f')) && anyDigit c < base
  let digits ← digitRun? isDigit s
  inRange? (digits.foldl (fun n c => base * n + anyDigit c) 0 : Nat)

/-- The integer that a word denotes. -/
def integer? (s : Text) : Option Toml :=
  match s with
  | '0' :: 'x' :: digits => inBase? 16 digits
  | '0' :: 'o' :: digits => inBase? 8 digits
  | '0' :: 'b' :: digits => inBase? 2 digits
  | s => do
    let (negative, body) := cutSign s
    let digits ← decimalRun? body
    let n : Int := Text.value digits
    inRange? (if negative then -n else n)

/-- Whether `digits * 10 ^ exponent` is nearer to the double after the largest one, which is
infinite, than to the largest one. Numbers far off are told by their length. -/
def overflows (digits : Nat) (exponent : Int) : Bool :=
  let top := (Text.digits digits).length + exponent
  if digits = 0 ∨ top < 300 then false
  else if 400 < top then true
  else
    let limit := Nat.pow 2 1024 - Nat.pow 2 970
    if 0 ≤ exponent then limit ≤ digits * Nat.pow 10 exponent.toNat
    else limit * Nat.pow 10 (-exponent).toNat ≤ digits

/-- Whether a word denotes a number with a fraction or an exponent. One that is too large for a
double is refused, unless it is negative. -/
def isFloat (s : Text) : Bool :=
  let (negative, body) := cutSign s
  let isMark (c : Char) : Bool := c = 'e' || c = 'E'
  let mantissa := body.takeWhile fun c => !isMark c
  let (whole, fraction) := (Text.cut? '.' mantissa).getD (mantissa, ['0'])
  let (below, exponent) := match body.dropWhile (fun c => !isMark c) with
    | _ :: exponent => cutSign exponent
    | [] => (false, ['0'])
  match decimalRun? whole, digitRun? Char.isDigit fraction, digitRun? Char.isDigit exponent with
  | some whole, some fraction, some exponent =>
    let power : Int := Text.value exponent
    body.any (fun c => isMark c || c = '.') &&
      (negative || !overflows (Text.value (whole ++ fraction))
        ((if below then -power else power) - fraction.length))
  | _, _, _ => false

/-- Whether a word denotes infinity or no number. -/
def isSpecialFloat (s : Text) : Bool :=
  let body := (cutSign s).2
  body = "inf".toList || body = "nan".toList

/-! ## Times -/

/-- The number of exactly the given count of digits. -/
def exactly? (count : Nat) (s : Text) : Option Nat :=
  if s.length = count then Text.natural? s else none

/-- Whether a word is a day of the calendar, `YYYY-MM-DD`. -/
def isDate (s : Text) : Bool :=
  match Text.pieces '-' s with
  | [year, month, day] =>
    match exactly? 4 year, exactly? 2 month, exactly? 2 day with
    | some y, some m, some d =>
      1 ≤ m && 1 ≤ d && d ≤ ((Calendar.monthLengths (Calendar.isLeap y))[m - 1]?).getD 0
    | _, _, _ => false
  | _ => false

/-- Whether a text is a time of day, `HH:MM:SS` with or without a fraction. A minute may have a leap
second. -/
def isTime (s : Text) : Bool :=
  match Text.pieces ':' s with
  | [hour, minute, second] =>
    let (second, fraction) := (Text.cut? '.' second).getD (second, ['0'])
    match exactly? 2 hour, exactly? 2 minute, exactly? 2 second, Text.natural? fraction with
    | some h, some m, some s, some _ => h ≤ 23 && m ≤ 59 && s ≤ 60
    | _, _, _, _ => false
  | _ => false

/-- Whether a text is a distance from universal time, `HH:MM`. -/
def isOffset (s : Text) : Bool :=
  match Text.pieces ':' s with
  | [hour, minute] =>
    match exactly? 2 hour, exactly? 2 minute with
    | some h, some m => h ≤ 23 && m ≤ 59
    | _, _ => false
  | _ => false

/-- Whether a text is a time of day with or without a zone. -/
def isZonedTime (s : Text) : Bool :=
  let isSign (c : Char) : Bool := c = '+' || c = '-'
  match s.reverse with
  | 'Z' :: time => isTime time.reverse
  | 'z' :: time => isTime time.reverse
  | _ =>
    match s.dropWhile fun c => !isSign c with
    | _ :: offset => isTime (s.takeWhile fun c => !isSign c) && isOffset offset
    | [] => isTime s

/-- Whether a word is a day, a time of day, or both with a `T` between them. -/
def isDateTime (s : Text) : Bool :=
  let isMark (c : Char) : Bool := c = 'T' || c = 't'
  match s.dropWhile fun c => !isMark c with
  | _ :: time => isDate (s.takeWhile fun c => !isMark c) && isZonedTime time
  | [] => isDate s || isTime s

/-! ## Words -/

/-- The value of a word. -/
def ofWord? (s : Text) : Option Toml :=
  if s = "true".toList ∨ s = "false".toList then some .boolean
  else if isDateTime s then some .dateTime
  else if isSpecialFloat s ∨ isFloat s then some .float
  else integer? s

/-- The value of the first word of a text. If it is a day and a word follows after one space, that
has to be its time. -/
def scalar (s : Text) : Option (Toml × Text) :=
  let first := word s
  let rest := s.dropWhile isWordChar
  let second := match rest with
    | ' ' :: after => word after
    | _ => []
  if isDate first ∧ second ≠ [] then
    if isZonedTime second then some (.dateTime, rest.drop (1 + second.length)) else none
  else (ofWord? first).map fun value => (value, rest)

end Toml
end ChatEmbed

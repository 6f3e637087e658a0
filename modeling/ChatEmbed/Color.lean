import ChatEmbed.Text.Blank
import ChatEmbed.Text.Decimal

/-!
# Colors

A color is given as one gray value or three values for red, green and blue, separated by commas.
Each is a run of digits with blanks around it, at most 255.

* `Color.channels` reads the runs of digits, `Color.read` the color they denote.
* `Color.pack` puts three channels into one number, `0xRRGGBB`.
* `Color.Fault` says what is wrong with an argument, `Color.Fault.message` in words.
-/

set_option autoImplicit false

namespace ChatEmbed
namespace Color

/-- What is wrong with a color argument. -/
inductive Fault
  /-- A channel begins with something other than a digit. -/
  | digitExpected (found : Char)
  /-- The argument ends where a channel should begin. -/
  | endOfInput
  /-- A digit is followed by something that cannot continue or end a channel. -/
  | afterDigit (found : Char)
  /-- The blanks after a channel are followed by something other than a comma. -/
  | afterBlank (found : Char)
  /-- A channel is above 255; its digits are kept as they were written. -/
  | outOfRange (digits : Text)
  /-- The argument has neither one nor three channels. -/
  | wrongCount (found : Nat)
deriving DecidableEq, Repr

/-- The fault in words. -/
def Fault.message : Fault → Text
  | .digitExpected c => "found '" ++ [c] ++ "' expected digit"
  | .endOfInput => "found end of input expected any"
  | .afterDigit c => "found '" ++ [c] ++ "' expected digit, ',', or end of input"
  | .afterBlank c => "found '" ++ [c] ++ "' expected ',', or end of input"
  | .outOfRange digits => digits ++ " is out of range 0-255"
  | .wrongCount n => "expected 1 or 3 values, found " ++ Text.digits n

/-! ## Reading the channels -/

/-- The digits of one channel, given the text up to the next comma or the end. -/
def channel (next : Option Char) (piece : Text) : Except Fault Text :=
  let start := Text.trimStart piece
  let digits := start.takeWhile Char.isDigit
  let rest := start.dropWhile Char.isDigit
  match digits, rest, Text.trimStart rest with
  | [], c :: _, _ => .error (.digitExpected c)
  | [], [], _ => .error (match next with
    | some c => .digitExpected c
    | none => .endOfInput)
  | _ :: _, c :: _, d :: _ => .error (if isBlank c then .afterBlank d else .afterDigit d)
  | _ :: _, _, _ => .ok digits

/-- The digits of every channel, given the pieces between commas. -/
def channelsOfPieces : List Text → Except Fault (List Text)
  | [] => .ok []
  | [last] => (channel none last).map ([·])
  | piece :: rest => do
    let first ← channel (some ',') piece
    let others ← channelsOfPieces rest
    return first :: others

/-- The digits of every channel of an argument. -/
def channels (argument : Text) : Except Fault (List Text) :=
  channelsOfPieces (Text.pieces ',' argument)

/-! ## From channels to a color -/

/-- The number of a channel, if it is at most 255. -/
def level (digits : Text) : Except Fault Nat :=
  if Text.value digits ≤ 255 then .ok (Text.value digits) else .error (.outOfRange digits)

/-- Three channels in one number, eight bits each. -/
def pack (r g b : Nat) : Nat :=
  r * 0x10000 + g * 0x100 + b

/-- The color of a list of channels: one for gray, three for red, green and blue. -/
def ofLevels : List Nat → Except Fault Nat
  | [gray] => .ok (pack gray gray gray)
  | [r, g, b] => .ok (pack r g b)
  | levels => .error (.wrongCount levels.length)

/-- The color that an argument denotes. -/
def read (argument : Text) : Except Fault Nat := do
  let digits ← channels argument
  let levels ← digits.mapM level
  ofLevels levels

end Color
end ChatEmbed

import ChatEmbed.ParseError

/-!
# Places in a shown text

A report shows the lines that an error is about. Its positions count characters, and its lines end
at every kind of line break.

* `ShownLine.ofText` cuts a text into lines, each with its number and its first position.
* `Place.find?` finds the lines of a span.
-/

set_option autoImplicit false

namespace ChatEmbed

/-- A line of a shown text, with its terminator. -/
structure ShownLine where
  /-- The number of the line, counted from 1. -/
  number : Nat
  /-- The position of its first character. -/
  start : Nat
  text : Text
deriving DecidableEq, Repr

namespace ShownLine

/-- The single characters that end a line; a carriage return and a line feed in a row end one line
together. -/
def isBreak (c : Char) : Bool :=
  [0xA, 0xB, 0xC, 0xD, 0x85, 0x2028, 0x2029].contains c.toNat

/-- The texts of the lines, with their terminators. -/
def cutLines : Text → List Text
  | [] => []
  | '\r' :: '\n' :: rest => ['\r', '\n'] :: cutLines rest
  | c :: rest =>
    if isBreak c then [c] :: cutLines rest
    else match cutLines rest with
      | [] => [[c]]
      | line :: lines => (c :: line) :: lines

/-- The lines of texts that follow each other, the first having the given number and position. -/
def enumerate (n start : Nat) : List Text → List ShownLine
  | [] => []
  | text :: rest => ⟨n, start, text⟩ :: ShownLine.enumerate (n + 1) (start + text.length) rest

/-- The lines of a text. -/
def ofText (shown : Text) : List ShownLine :=
  ShownLine.enumerate 1 0 (cutLines shown)

/-- The line without the blank characters it ends with. -/
def visible (line : ShownLine) : Text :=
  Text.trimEnd line.text

/-- The line that a position of the text lies in; the end of the text lies in the last line. -/
def find? (shown : Text) (position : Nat) : Option ShownLine :=
  if shown.length < position then none
  else ((ofText shown).filter fun line => line.start ≤ position).getLast?

end ShownLine

/-- Where an error is shown. -/
structure Place where
  /-- The first position, and the one after the last. -/
  start : Nat
  stop : Nat
  first : ShownLine
  last : ShownLine
deriving DecidableEq, Repr

namespace Place

/-- The place of a span in a shown text. Each end of the span is limited to the size of the text,
and then stands for a position. -/
def find? (shown : Text) (span : Span) : Option Place := do
  let start := min span.start (Text.byteSize shown)
  let stop := min span.stop (Text.byteSize shown)
  let first ← ShownLine.find? shown start
  let last ← if start < stop then ShownLine.find? shown (stop - 1) else some first
  return ⟨start, stop, first, last⟩

/-- The column of the first position in its line, counted from 1. -/
def column (place : Place) : Nat :=
  place.start - place.first.start + 1

/-- Whether a position belongs to the place. -/
def covers (place : Place) (position : Nat) : Bool :=
  place.start ≤ position && position < place.stop

end Place
end ChatEmbed

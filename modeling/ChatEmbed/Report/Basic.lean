import ChatEmbed.Report.Place
import ChatEmbed.Text.Width

/-!
# Error reports

A report puts the message of an error above a drawing of the lines it is about, in colors.

* `Piece` is a text in one color; a row of a report is a list of pieces.
* `Place.rows` draws the lines of a place with a label, on one line or across several.
* `ParseError.report` is the report of an error. An error without a place of its own in the
  document is only named.
-/

set_option autoImplicit false

namespace ChatEmbed

/-- A color of a report. -/
inductive Ink
  /-- The color of the terminal. -/
  | bare
  /-- What is at fault. -/
  | fault
  /-- The frame and the line numbers. -/
  | frame
  /-- The margin of rows without a number. -/
  | margin
  /-- Shown text that is not at fault. -/
  | quiet
deriving DecidableEq, Repr

/-- The parameter of the control sequence that switches a color on. -/
def Ink.code? : Ink → Option Text
  | .bare => none
  | .fault => some "31"
  | .frame => some "38;5;246"
  | .margin => some "38;5;240"
  | .quiet => some "38;5;249"

/-- A text in one color. -/
structure Piece where
  ink : Ink
  text : Text
deriving DecidableEq, Repr

namespace Piece

/-- The text between the control sequences for its color. -/
def write (piece : Piece) : Text :=
  match piece.ink.code? with
  | none => piece.text
  | some code => "\x1b[" ++ code ++ ['m'] ++ piece.text ++ "\x1b[0m"

/-- A text without color. -/
def bare (s : Text) : Piece := ⟨.bare, s⟩

/-- Every character as a piece of its own. -/
def each (ink : Ink) (s : Text) : List Piece :=
  s.map fun c => ⟨ink, [c]⟩

end Piece

/-- A row of a report. -/
abbrev Row := List Piece

/-- The rows, each ended by a line feed. -/
def Row.writeAll (rows : List Row) : Text :=
  rows.flatMap fun row => row.flatMap Piece.write ++ ['\n']

namespace Place

/-- The number of spaces. -/
def spaces (n : Nat) : Text :=
  List.replicate n ' '

/-- The number of columns that line numbers take. -/
def numberWidth (place : Place) : Nat :=
  (Text.digits place.last.number).length

/-- The left end of a row that shows a line. -/
def numbered (place : Place) (line : ShownLine) : Row :=
  let number := Text.digits line.number
  [.bare [' '], ⟨.frame, spaces (place.numberWidth - number.length) ++ number ++ " │"⟩,
    .bare [' ']]

/-- The left end of a row that shows no line. -/
def unnumbered (place : Place) (edge : Char) : Row :=
  [.bare [' '], ⟨.margin, spaces (place.numberWidth + 1) ++ [edge]⟩, .bare [' ']]

/-! ## Columns -/

/-- The distance between tabulator stops. -/
def tabWidth : Nat := 4

/-- The number of cells of a character in the given column. -/
def cellCount (column : Nat) (c : Char) : Nat :=
  if c = '\t' then tabWidth - column % tabWidth
  else if isBlank c then 1
  else Text.charWidth c

/-- The visible part of a line, what is at fault in color. A blank becomes as many spaces as it
takes cells. -/
def shown (place : Place) (line : ShownLine) : Row :=
  (line.visible.mapIdx fun column c =>
    let ink := if place.covers (line.start + column) then Ink.fault else .quiet
    Piece.each ink (if isBlank c then spaces (cellCount column c) else [c])).flatten

/-- The cells of the first columns of a line; behind its visible part each column has one. -/
def columnWidths (line : ShownLine) (count : Nat) : List Nat :=
  (line.visible.mapIdx cellCount ++ List.replicate count 1).take count

/-- A row of cells; `draw` gives the cell of a column, told whether it is the first of them. -/
def cells (widths : List Nat) (draw : Nat → Bool → Piece) : Row :=
  (widths.mapIdx fun column width =>
    (List.range width).map fun n => draw column (n = 0)).flatten

/-! ## One line -/

/-- The rows for a place within one line: the line, a rule under what is at fault, and an arm from
its middle to the label. A place that goes beyond its line has neither. -/
def singleLine (place : Place) (label : Text) : List Row :=
  let line := place.first
  let start := place.start - line.start
  let stop := place.stop - line.start
  let middle := (place.start + place.stop) / 2 - line.start
  let within (column : Nat) : Bool := start ≤ column && column < stop
  let rule (column : Nat) (isFirst : Bool) : Piece :=
    if isFirst && column = middle then ⟨.fault, if within middle then "┬" else "│"⟩
    else if within column then ⟨.fault, "─"⟩
    else .bare [' ']
  let arm (column : Nat) (isFirst : Bool) : Piece :=
    if isFirst && column = middle then ⟨.fault, "╰"⟩
    else if middle ≤ column then ⟨.fault, "─"⟩
    else .bare [' ']
  let widths := columnWidths line (stop + 2)
  if line.text.length < stop then [place.unnumbered '│']
  else
    [place.numbered line ++ place.shown line,
      place.unnumbered '│' ++ cells widths rule,
      place.unnumbered '│' ++ cells widths arm ++ [.bare (' ' :: label)]]

/-! ## Several lines -/

/-- The rows for a place across lines: its first and its last line, joined by a rule at the left,
and an arm below them to the label. -/
def severalLines (place : Place) (label : Text) : List Row :=
  let width := (columnWidths place.last (place.last.text.length + 2)).foldl (· + ·) 0
  let skipped : List Row :=
    if place.first.number + 1 < place.last.number then
      [place.unnumbered '┆' ++ Piece.each .fault "┆" ++ [.bare (spaces 3)]]
    else []
  [place.numbered place.first ++ Piece.each .fault "╭─▶ " ++ place.shown place.first] ++
    skipped ++
    [place.numbered place.last ++ Piece.each .fault "├─▶ " ++ place.shown place.last,
      place.unnumbered '│' ++ Piece.each .fault "│" ++ [.bare (spaces (3 + width))],
      place.unnumbered '│' ++ Piece.each .fault ('╰' :: List.replicate (3 + width) '─') ++
        [.bare (' ' :: label)]]

/-! ## The frame -/

/-- The place in words: file, line and column. -/
def location (place : Place) (file : Text) : Text :=
  file ++ ':' :: Text.digits place.first.number ++ ':' :: Text.digits place.column

/-- The rows of the drawing, with its frame. -/
def rows (place : Place) (file label : Text) : List Row :=
  let margin := spaces (place.numberWidth + 2)
  let body :=
    if place.first.number = place.last.number then place.singleLine label
    else place.severalLines label
  [.bare margin :: Piece.each .frame "╭─[" ++ [.bare (place.location file), ⟨.frame, [']']⟩],
    [.bare margin, ⟨.frame, "│"⟩]] ++
    body ++
    [[⟨.frame, List.replicate (place.numberWidth + 2) '─' ++ "╯"⟩]]

end Place

/-! ## Reports of errors -/

/-- What a report writes next to the line at fault. -/
def LineFault.label : LineFault → Text
  | .unknownCommand _ => "unknown command"
  | .notAllowed .. => "not allowed here"
  | .contentInTemplate _ => "template content must be directives"
  | .invalidColor .. => "expected 1 or 3 values between 0 and 255"
  | .invalidTimestamp _ => "invalid timestamp"
  | .invalidReplacement _ => "expected '<token>' or '<token>? <default>'"

/-- The report of an error about a text that is shown under a file name. -/
def ParseError.report (error : ParseError) (shown file : Text) : Text :=
  match error with
  | .line _ span fault =>
    let head : Row := [⟨.fault, "Error:"⟩, .bare (' ' :: error.message)]
    let drawing := match Place.find? shown span with
      | some place => place.rows file fault.label
      | none => []
    Row.writeAll (head :: drawing)
  | error => "Error: " ++ error.message ++ ['\n']

end ChatEmbed

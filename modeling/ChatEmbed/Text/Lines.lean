import ChatEmbed.Text.Basic

/-!
# Lines of a text

* `lines` cuts a text after every line feed. The line feed, and one carriage return right before
  it, do not belong to the line; a text that ends with a line feed has no empty line after it.
* `chomp` takes every line feed and carriage return off the end of a line.
-/

set_option autoImplicit false

namespace ChatEmbed
namespace Text

/-- The line without the carriage return that stands before its line feed. -/
def dropReturn (s : Text) : Text :=
  (dropEnd? ['\r'] s).getD s

/-- The lines, from the pieces between line feeds: all pieces but the last were ended by a line
feed, and an empty last piece is no line. -/
def linesOfPieces : List Text → List Text
  | [] => []
  | [last] => if last.isEmpty then [] else [last]
  | p :: ps => dropReturn p :: linesOfPieces ps

/-- The lines of a text, without their terminators. -/
def lines (s : Text) : List Text :=
  linesOfPieces (pieces '\n' s)

/-- Whether a character belongs to a line terminator. -/
def isTerminator (c : Char) : Bool :=
  c = '\n' || c = '\r'

/-- The line without the terminator characters at its end. -/
def chomp (s : Text) : Text :=
  (s.reverse.dropWhile isTerminator).reverse

@[simp] theorem lines_nil : lines [] = [] := rfl

@[simp] theorem chomp_nil : chomp [] = [] := rfl

end Text
end ChatEmbed

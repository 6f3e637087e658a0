import ChatEmbed.Text.Blank

/-!
# Comments

A comment runs from the first colon to the end of the line; a backslash before a colon makes it an
ordinary character. Command lines have no comments, so that their arguments can hold colons.

* `strip` takes the comment off a line and says whether there was one.
* `escape` writes a text so that `strip` gives it back.
-/

set_option autoImplicit false

namespace ChatEmbed
namespace Comment

/-- The character that starts a comment. -/
def delimiter : Char := ':'

/-- The character that makes a delimiter after it ordinary. -/
def escapeMark : Char := '\\'

/-- The character that a command line begins with. -/
def commandMark : Char := '@'

/-- Whether the first visible character of a line is the command mark. -/
def isCommandLine (line : Text) : Bool :=
  (Text.trimStart line).head? == some commandMark

/-- The content before the first delimiter that is not escaped, with escapes undone, and whether
there is such a delimiter. -/
def content : Text → Text × Bool
  | [] => ([], false)
  | ':' :: _ => ([], true)
  | '\\' :: ':' :: r => (':' :: (content r).1, (content r).2)
  | c :: r => (c :: (content r).1, (content r).2)

/-- The line without its comment, and whether it had one. -/
def strip (line : Text) : Text × Bool :=
  if isCommandLine line then (line, false) else content line

/-- The text with an escape mark before every delimiter. -/
def escape : Text → Text
  | [] => []
  | c :: r => if c = delimiter then escapeMark :: c :: escape r else c :: escape r

theorem strip_of_isCommandLine {line : Text} (h : isCommandLine line = true) :
    strip line = (line, false) :=
  if_pos h

theorem strip_of_not_isCommandLine {line : Text} (h : isCommandLine line = false) :
    strip line = content line := by
  rw [strip, if_neg (by simp [h])]

end Comment
end ChatEmbed

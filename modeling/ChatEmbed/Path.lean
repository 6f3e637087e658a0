import ChatEmbed.Text.Basic

/-!
# Paths

A path is a text whose names are separated by slashes; one that begins with a slash is absolute.
All operations work on the text alone and never look at files.

* `components` cuts a path into its names, `..` steps, the root and a leading `.`.
* `join` puts a path below another one, `parent?` is the directory that holds a path.
* `normalize` folds `.` and `..` away as far as the text allows.
-/

set_option autoImplicit false

namespace ChatEmbed

/-- A path as it is written. -/
abbrev Path := Text

namespace Path

/-- The character between names. -/
def separator : Char := '/'

/-- A step of a path. -/
inductive Component
  /-- The start of an absolute path. -/
  | root
  /-- The `.` that a relative path begins with; elsewhere it is no step. -/
  | here
  /-- One directory up. -/
  | up
  | name (text : Text)
deriving DecidableEq, Repr

/-- The text of a step. -/
def Component.write : Component → Text
  | .root => "/"
  | .here => "."
  | .up => ".."
  | .name text => text

/-- The step that a piece between separators stands for, if it is one. -/
def Component.ofPiece? (piece : Text) : Option Component :=
  if piece = [] ∨ piece = ['.'] then none
  else if piece = ['.', '.'] then some .up
  else some (.name piece)

/-- The steps of a path. -/
def components (path : Path) : List Component :=
  match path with
  | '/' :: rest => .root :: (Text.pieces separator rest).filterMap Component.ofPiece?
  | path =>
    match Text.pieces separator path with
    | ['.'] :: rest => .here :: rest.filterMap Component.ofPiece?
    | pieces => pieces.filterMap Component.ofPiece?

/-- The path of a list of steps. -/
def ofComponents : List Component → Path
  | .root :: rest => separator :: Text.join [separator] (rest.map Component.write)
  | steps => Text.join [separator] (steps.map Component.write)

/-- Whether a path starts at the root. -/
def isAbsolute (path : Path) : Bool :=
  path.head? == some separator

/-- The second path read from the directory that the first one names. -/
def join (dir path : Path) : Path :=
  if isAbsolute path ∨ dir = [] then path
  else if dir.getLast? = some separator then dir ++ path
  else dir ++ separator :: path

/-- The directory that holds what the path names; the root and the empty path have none. -/
def parent? (path : Path) : Option Path :=
  match (components path).reverse with
  | [] | [.root] => none
  | _ :: steps => some (ofComponents steps.reverse)

/-- One more step on a folded path, whose steps are listed last first. -/
def push (stack : List Component) : Component → List Component
  | .here => stack
  | .up => match stack with
    | .name _ :: below => below
    | [.root] => [.root]
    | stack => .up :: stack
  | step => step :: stack

/-- The steps of a path with `.` and `..` folded away. -/
def fold (path : Path) : List Component :=
  ((components path).foldl push []).reverse

/-- The shortest text of a path: its folded steps, or `.` if there are none. -/
def normalize (path : Path) : Path :=
  match fold path with
  | [] => ['.']
  | steps => ofComponents steps

example : normalize "/a/../../b".toList = "/b".toList := by decide

example : normalize "../x/./y//..".toList = "../x".toList := by decide

end Path
end ChatEmbed

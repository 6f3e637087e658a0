import ChatEmbed.Source

/-!
# A tree of files

A file tree is a working directory with files and directories in it, and answers paths the way a
file system does: step by step, without folding `..` first.

* `FileTree.system` is the tree to begin with; `FileTree.write` and `FileTree.makeDirectory` add to
  a tree, with all directories that the path leads through.
* `FileTree.source` serves its files. Every step of a path has to lead to a directory but the last;
  a path that ends with a separator or with `.` asks for a directory.

The root and the directories above the working directory are there in every tree.
-/

set_option autoImplicit false

namespace ChatEmbed

/-- What stands at a place: a directory, or a file with its text if its bytes are a text. -/
inductive FileEntry
  | directory
  | file (content : Option Text)
deriving DecidableEq, Repr

/-- Where a path leads: its folded steps from the working directory or the root, last first. -/
abbrev FilePlace := List Path.Component

/-- The entries of a working directory, each at its place; of two at one place the first counts. -/
structure FileTree where
  entries : List (FilePlace × FileEntry) := []
deriving Repr

namespace FileTree

/-- Whether a place is the working directory, the root, or a directory above: no name leads to
it. -/
def isNameless (place : FilePlace) : Bool :=
  place.all fun step => step = .up || step = .root

/-- What stands at a place. -/
def entry? (tree : FileTree) (place : FilePlace) : Option FileEntry :=
  if isNameless place then some .directory else tree.entries.lookup place

/-! ## Adding -/

/-- The tree with one more entry, before which all others at its place give way. -/
def insert (tree : FileTree) (place : FilePlace) (entry : FileEntry) : FileTree :=
  ⟨(place, entry) :: tree.entries⟩

/-- The tree with a directory at a place, unless something stands there already. -/
def addDirectory (tree : FileTree) (place : FilePlace) : FileTree :=
  if (tree.entry? place).isSome then tree else tree.insert place .directory

/-- The tree with a directory at every place that the steps lead through. Steps up count too: a
directory that a path enters and leaves again is made. -/
def addDirectories (tree : FileTree) (place : FilePlace) : List Path.Component → FileTree
  | [] => tree
  | step :: rest =>
    let next := Path.push place step
    (tree.addDirectory next).addDirectories next rest

/-- The tree with a directory under a path. -/
def makeDirectory (tree : FileTree) (path : Path) : FileTree :=
  tree.addDirectories [] (Path.components path)

/-- The tree with a file under a path; `none` stands for bytes that are no text. -/
def write (tree : FileTree) (path : Path) (content : Option Text) : FileTree :=
  let steps := Path.components path
  (tree.addDirectories [] steps.dropLast).insert (steps.foldl Path.push []) (.file content)

/-- The tree of an empty working directory: under the root of every system there are a directory
for temporary files and a device that reads as an empty file. -/
def system : FileTree :=
  (FileTree.makeDirectory {} "/tmp").write "/dev/null" (some [])

/-! ## Reading -/

/-- The longest name that a directory can hold, in bytes. -/
def maxNameSize : Nat := 255

/-- The longest path that can be asked for, in bytes. -/
def maxPathSize : Nat := 4095

/-- One step of a walk, which has to start at a directory. -/
def step (tree : FileTree) (place : FilePlace) (piece : Text) : Except ReadFailure FilePlace :=
  match tree.entry? place with
  | none => .error .noSuchFile
  | some (.file _) => .error .notDirectory
  | some .directory =>
    match Path.Component.ofPiece? piece with
    | none => .ok place
    | some next =>
      if maxNameSize < Text.byteSize piece then .error .nameTooLong else .ok (Path.push place next)

/-- All steps of a walk. -/
def walk (tree : FileTree) : FilePlace → List Text → Except ReadFailure FilePlace
  | place, [] => .ok place
  | place, piece :: rest => do
    let next ← tree.step place piece
    tree.walk next rest

/-- The text of the file that a path leads to. -/
def source (tree : FileTree) : Source := fun path => do
  if '\x00' ∈ path then throw .zeroInName
  if path = [] then throw .noSuchFile
  if maxPathSize < Text.byteSize path then throw .nameTooLong
  let start := if Path.isAbsolute path then [Path.Component.root] else []
  let place ← tree.walk start (Text.pieces Path.separator path)
  match tree.entry? place with
  | none => throw .noSuchFile
  | some .directory => throw .isDirectory
  | some (.file none) => throw .notUnicode
  | some (.file (some content)) => return content

end FileTree
end ChatEmbed

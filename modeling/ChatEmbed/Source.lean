import ChatEmbed.Path
import ChatEmbed.Text.Lines

/-!
# Where lines come from

* `Source` answers a path with the text of a file or with the reason why it cannot be read;
  `ReadFailure.isMissing` singles out the files that do not exist.
* `Source.readLines` gives the lines of a file.
* `MemoryFiles` is a store of files under normalized paths, the simplest source.
-/

set_option autoImplicit false

namespace ChatEmbed

/-- Why a file cannot be read. -/
inductive ReadFailure
  /-- The store has no file under this path. -/
  | notStored (asked : Path)
  | noSuchFile
  | notDirectory
  | isDirectory
  | nameTooLong
  | zeroInName
  | notUnicode
  /-- Any other failure of the system, in its own words. -/
  | system (description : Text)
deriving DecidableEq, Repr

namespace ReadFailure

/-- The failure in words. -/
def message : ReadFailure → Text
  | .notStored asked => asked ++ " not found"
  | .noSuchFile => "No such file or directory (os error 2)"
  | .notDirectory => "Not a directory (os error 20)"
  | .isDirectory => "Is a directory (os error 21)"
  | .nameTooLong => "File name too long (os error 36)"
  | .zeroInName => "file name contained an unexpected NUL byte"
  | .notUnicode => "stream did not contain valid UTF-8"
  | .system description => description

/-- Whether the file does not exist, as opposed to one that is there but cannot be read. -/
def isMissing : ReadFailure → Bool
  | .notStored _ | .noSuchFile => true
  | _ => false

end ReadFailure

/-- Answers every path with the text of a file or with the reason why there is none. -/
abbrev Source := Path → Except ReadFailure Text

/-- The lines of a file. -/
def Source.readLines (source : Source) (path : Path) : Except ReadFailure (List Text) :=
  (source path).map Text.lines

/-! ## Files in memory -/

/-- Files kept under normalized paths, each path at most once. -/
structure MemoryFiles where
  entries : List (Path × Text) := []
deriving Repr

namespace MemoryFiles

/-- The text stored under the normalized form of a path. -/
def get? (files : MemoryFiles) (path : Path) : Option Text :=
  files.entries.lookup (Path.normalize path)

/-- Whether a file is stored under the normalized form of a path. -/
def contains (files : MemoryFiles) (path : Path) : Bool :=
  (files.get? path).isSome

/-- The files with one more; a file already stored under that path is replaced. -/
def insert (files : MemoryFiles) (path : Path) (content : Text) : MemoryFiles :=
  ⟨(Path.normalize path, content) ::
    files.entries.filter fun entry => entry.1 ≠ Path.normalize path⟩

/-- The files of a list, later ones replacing earlier ones. -/
def ofList (entries : List (Path × Text)) : MemoryFiles :=
  entries.foldl (fun files entry => files.insert entry.1 entry.2) {}

/-- The source that serves the files. -/
def source (files : MemoryFiles) : Source := fun path =>
  match files.get? path with
  | some content => .ok content
  | none => .error (.notStored path)

theorem lookup_filter_ne {asked key : Path} (h : asked ≠ key) (entries : List (Path × Text)) :
    (entries.filter fun entry => entry.1 ≠ key).lookup asked = entries.lookup asked := by
  induction entries with
  | nil => rfl
  | cons entry rest ih =>
    obtain ⟨k, v⟩ := entry
    by_cases hk : k = key
    · subst hk
      rw [List.filter_cons, if_neg (by simp), ih, List.lookup_cons, beq_eq_false_iff_ne.2 h]
    · rw [List.filter_cons, if_pos (by simpa using hk), List.lookup_cons, List.lookup_cons, ih]

theorem get?_insert (files : MemoryFiles) (path asked : Path) (content : Text) :
    (files.insert path content).get? asked =
      if Path.normalize asked = Path.normalize path then some content else files.get? asked := by
  rw [get?, insert, List.lookup_cons]
  split
  · next h => rw [if_pos (by simpa using h)]
  · next h =>
    have hne : Path.normalize asked ≠ Path.normalize path := by simpa using h
    rw [if_neg hne, lookup_filter_ne hne, get?]

end MemoryFiles
end ChatEmbed

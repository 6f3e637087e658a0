import ChatEmbed.Toml.Quoted
import ChatEmbed.Toml.Scalar

/-!
# Reading TOML documents

* `Toml.keys` reads a dotted key, `Toml.value` a value of any kind.
* `Toml.statement` reads one line of a document and makes it part of the tree.
* `Toml.read` gives the entries of the root table of a document.
-/

set_option autoImplicit false

namespace ChatEmbed
namespace Toml

/-- Brackets and braces may be nested, and keys may have parts, fewer than this many. -/
def nestingLimit : Nat := 80

/-! ## Between values -/

/-- The text behind a comment, if a text begins with one. -/
def skipComment : Text → Text
  | '#' :: rest => rest.dropWhile isPlain
  | s => s

/-- What follows the end of a line, which may have a comment. -/
def lineEnd? (s : Text) : Option Text :=
  match skipComment (skipSpaces s) with
  | [] => some []
  | rest => lineBreak? rest

/-- The text behind blanks, line breaks and comments, reading at most the given number of lines. -/
def skipLines : Nat → Text → Text
  | 0, s => s
  | fuel + 1, s =>
    match lineBreak? (skipComment (skipSpaces s)) with
    | some rest => skipLines fuel rest
    | none => skipSpaces s

/-! ## Keys -/

/-- Whether a character may stand in a key without quotes. -/
def isKeyChar (c : Char) : Bool :=
  c.isAlphanum || c = '-' || c = '_'

/-- One part of a key. -/
def keyPart (s : Text) : Option (Text × Text) :=
  match s with
  | [] => none
  | c :: rest =>
    if c = '\"' then basic rest
    else if c = apostrophe then literal rest
    else if isKeyChar c then some (s.takeWhile isKeyChar, s.dropWhile isKeyChar)
    else none

/-- A dotted key with blanks around its parts, reading at most the given number of parts. -/
def keyParts : Nat → Text → Option (List Text × Text)
  | 0, _ => none
  | fuel + 1, s => do
    let (part, rest) ← keyPart (skipSpaces s)
    match skipSpaces rest with
    | '.' :: rest =>
      let (parts, rest) ← keyParts fuel rest
      return (part :: parts, rest)
    | rest => return ([part], rest)

/-- A dotted key as the path to a table and the key in that table. -/
def keys (s : Text) : Option ((List Text × Text) × Text) := do
  let (parts, rest) ← keyParts (nestingLimit - 1) s
  let last ← parts.getLast?
  return ((parts.dropLast, last), rest)

/-! ## Values -/

/-- A string with its quotes. -/
def quoted (s : Text) : Option (Text × Text) :=
  match s with
  | '\"' :: '\"' :: '\"' :: rest => multilineBasic rest
  | '\"' :: rest => basic rest
  | a :: b :: c :: rest =>
    if a ≠ apostrophe then none
    else if b = apostrophe ∧ c = apostrophe then multilineLiteral rest
    else literal (b :: c :: rest)
  | a :: rest => if a = apostrophe then literal rest else none
  | [] => none

mutual

/-- A value inside the given number of brackets, reading at most the given number of parts. -/
def valueParts : Nat → Nat → Text → Option (Toml × Text)
  | 0, _, _ => none
  | fuel + 1, depth, s =>
    match s with
    | '[' :: rest =>
      if nestingLimit ≤ depth + 1 then none else arrayParts fuel (depth + 1) [] rest
    | '\x7b' :: rest =>
      if nestingLimit ≤ depth + 1 then none
      else
        match skipSpaces rest with
        | '\x7d' :: rest => some (.table .braces [], rest)
        | rest => tableParts fuel (depth + 1) [] rest
    | s =>
      match quoted s with
      | some (content, rest) => some (.text content, rest)
      | none => scalar s

/-- The items of an array after those already read; a comma may follow the last one. -/
def arrayParts : Nat → Nat → List Toml → Text → Option (Toml × Text)
  | 0, _, _, _ => none
  | fuel + 1, depth, done, s =>
    match skipLines s.length s with
    | ']' :: rest => some (.array done.reverse, rest)
    | s => do
      let (item, rest) ← valueParts fuel depth s
      match skipLines rest.length rest with
      | ',' :: rest => arrayParts fuel depth (item :: done) rest
      | ']' :: rest => return (.array (item :: done).reverse, rest)
      | _ => none

/-- The entries of a table between braces after those already read. -/
def tableParts : Nat → Nat → Entries → Text → Option (Toml × Text)
  | 0, _, _, _ => none
  | fuel + 1, depth, done, s => do
    let ((path, key), rest) ← keys s
    match rest with
    | '=' :: rest =>
      let (value, rest) ← valueParts fuel depth (skipSpaces rest)
      let done ← define path key value .header done
      match skipSpaces rest with
      | ',' :: rest => tableParts fuel depth done rest
      | '\x7d' :: rest => return (.table .braces done, rest)
      | _ => none
    | _ => none

end

/-- A value of any kind. -/
def value (s : Text) : Option (Toml × Text) :=
  valueParts (2 * s.length + 2) 0 s

/-! ## Documents -/

/-- A document as far as it has been read: its root, and the path of the table that the last header
has opened. -/
structure Reading where
  root : Entries := []
  header : List Text := []

/-- One line of a document with the line break that ends it. -/
def statement (reading : Reading) (s : Text) : Option (Reading × Text) :=
  match s with
  | '[' :: '[' :: rest => do
    let ((path, key), rest) ← keys rest
    match rest with
    | ']' :: ']' :: rest =>
      let rest ← lineEnd? rest
      let root ← openElement path key reading.root
      return (⟨root, path ++ [key]⟩, rest)
    | _ => none
  | '[' :: rest => do
    let ((path, key), rest) ← keys rest
    match rest with
    | ']' :: rest =>
      let rest ← lineEnd? rest
      let root ← openTable path key reading.root
      return (⟨root, path ++ [key]⟩, rest)
    | _ => none
  | s => do
    let ((path, key), rest) ← keys s
    match rest with
    | '=' :: rest =>
      let (value, rest) ← value (skipSpaces rest)
      let rest ← lineEnd? rest
      let root ← defineIn reading.header path key value reading.root
      return ({ reading with root }, rest)
    | _ => none

/-- The root table after the rest of a document, reading at most the given number of statements. -/
def statements : Nat → Reading → Text → Option Entries
  | 0, _, _ => none
  | fuel + 1, reading, s =>
    match skipLines s.length s with
    | [] => some reading.root
    | rest =>
      if skipComment rest = [] then some reading.root
      else do
        let (reading, rest) ← statement reading rest
        statements fuel reading rest

/-- The mark that a document in UTF-8 may begin with. -/
def byteOrderMark : Char := Char.ofNat 0xFEFF

/-- The entries of the root table of a document. -/
def read (s : Text) : Option Entries :=
  let s := if s.head? = some byteOrderMark then s.drop 1 else s
  statements (s.length + 1) {} s

end Toml
end ChatEmbed

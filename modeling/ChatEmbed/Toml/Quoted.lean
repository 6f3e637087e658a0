import ChatEmbed.Text.Basic

/-!
# Strings of TOML

A reader takes a text apart into what it has read and the rest, or refuses it. The readers here
start behind the opening quotes.

* `Toml.basic` and `Toml.literal` read strings on one line, `Toml.multilineBasic` and
  `Toml.multilineLiteral` strings on several lines.
* `Toml.escape` reads what follows a backslash.
-/

set_option autoImplicit false

namespace ChatEmbed
namespace Toml

/-- The character that literal strings stand between. -/
def apostrophe : Char := Char.ofNat 39

/-- Whether a character may stand in a comment or string at all: a tabulator, or anything but a
control character. -/
def isPlain (c : Char) : Bool :=
  c = '\t' || (0x20 ≤ c.toNat && c.toNat ≠ 0x7F)

/-- Whether a character stands for itself in a basic string. -/
def isBasic (c : Char) : Bool :=
  isPlain c && c ≠ '\"' && c ≠ '\\'

/-- Whether a character may stand in a literal string. -/
def isLiteral (c : Char) : Bool :=
  isPlain c && c ≠ apostrophe

/-- Whether a character is a space or a tabulator. -/
def isSpace (c : Char) : Bool :=
  c = ' ' || c = '\t'

/-- The text without the spaces it begins with. -/
def skipSpaces (s : Text) : Text :=
  s.dropWhile isSpace

/-- What follows the line break that a text begins with. -/
def lineBreak? : Text → Option Text
  | '\n' :: rest => some rest
  | '\r' :: '\n' :: rest => some rest
  | _ => none

/-! ## Escapes -/

/-- The value of a hexadecimal digit. -/
def hexDigit? (c : Char) : Option Nat :=
  if c.isDigit then some (c.toNat - '0'.toNat)
  else if 'a' ≤ c ∧ c ≤ 'f' then some (c.toNat - 'a'.toNat + 10)
  else if 'A' ≤ c ∧ c ≤ 'F' then some (c.toNat - 'A'.toNat + 10)
  else none

/-- The character with the number that the first digits of a text denote, if there is one. -/
def codePoint? (count : Nat) (s : Text) : Option (Char × Text) := do
  let digits ← (s.take count).mapM hexDigit?
  let n := digits.foldl (fun n d => 16 * n + d) 0
  if digits.length = count ∧ n.isValidChar then some (Char.ofNat n, s.drop count) else none

/-- The character that an escape stands for, read behind its backslash. -/
def escape : Text → Option (Char × Text)
  | 'b' :: rest => some (Char.ofNat 8, rest)
  | 't' :: rest => some ('\t', rest)
  | 'n' :: rest => some ('\n', rest)
  | 'f' :: rest => some (Char.ofNat 12, rest)
  | 'r' :: rest => some ('\r', rest)
  | '\"' :: rest => some ('\"', rest)
  | '\\' :: rest => some ('\\', rest)
  | 'u' :: rest => codePoint? 4 rest
  | 'U' :: rest => codePoint? 8 rest
  | _ => none

/-! ## Strings on one line -/

/-- A basic string on one line, reading at most the given number of parts. -/
def basicParts : Nat → Text → Option (Text × Text)
  | 0, _ => none
  | fuel + 1, s =>
    match s with
    | '\"' :: rest => some ([], rest)
    | '\\' :: rest => do
      let (c, rest) ← escape rest
      let (content, rest) ← basicParts fuel rest
      return (c :: content, rest)
    | c :: rest => do
      if isBasic c then
        let (content, rest) ← basicParts fuel rest
        return (c :: content, rest)
      else none
    | [] => none

/-- A basic string on one line. -/
def basic (s : Text) : Option (Text × Text) :=
  basicParts (s.length + 1) s

/-- A literal string on one line. -/
def literal (s : Text) : Option (Text × Text) :=
  match s.dropWhile isLiteral with
  | c :: rest => if c = apostrophe then some (s.takeWhile isLiteral, rest) else none
  | [] => none

/-! ## Strings on several lines -/

/-- The text without the line break it begins with. -/
def skipLineBreak (s : Text) : Text :=
  (lineBreak? s).getD s

/-- The text without the spaces and line breaks it begins with. -/
def skipBlankLines : Text → Text
  | '\r' :: '\n' :: rest => skipBlankLines rest
  | c :: rest => if isSpace c || c = '\n' then skipBlankLines rest else c :: rest
  | [] => []

/-- What follows a run of quotes in a string on several lines. Fewer than three are content, and the
string goes on; three end it, and up to two more before them are content. -/
def afterQuotes (quote : Char) (s : Text) : Option (Text × Text ⊕ Text × Text) :=
  let run := s.takeWhile (· = quote)
  let rest := s.dropWhile (· = quote)
  if run.length < 3 then some (.inl (run, rest))
  else if run.length ≤ 5 then some (.inr (run.drop 3, rest))
  else none

/-- A string on several lines, reading at most the given number of parts; `escapes` tells whether
backslashes are escapes. A line break counts as a line feed, and a backslash before one takes all
blanks and line breaks after it away. -/
def multilineParts (quote : Char) (escapes : Bool) : Nat → Text → Option (Text × Text)
  | 0, _ => none
  | fuel + 1, s =>
    match s with
    | [] => none
    | c :: rest =>
      if c = quote then do
        match ← afterQuotes quote s with
        | .inr ending => return ending
        | .inl (run, rest) =>
          let (content, rest) ← multilineParts quote escapes fuel rest
          return (run ++ content, rest)
      else if escapes && c = '\\' then
        match lineBreak? (skipSpaces rest) with
        | some rest => multilineParts quote escapes fuel (skipBlankLines rest)
        | none => do
          let (c, rest) ← escape rest
          let (content, rest) ← multilineParts quote escapes fuel rest
          return (c :: content, rest)
      else
        match lineBreak? s with
        | some rest => do
          let (content, rest) ← multilineParts quote escapes fuel rest
          return ('\n' :: content, rest)
        | none => do
          if isPlain c then
            let (content, rest) ← multilineParts quote escapes fuel rest
            return (c :: content, rest)
          else none

/-- A basic string on several lines. -/
def multilineBasic (s : Text) : Option (Text × Text) :=
  multilineParts '\"' true (s.length + 1) (skipLineBreak s)

/-- A literal string on several lines. -/
def multilineLiteral (s : Text) : Option (Text × Text) :=
  multilineParts apostrophe false (s.length + 1) (skipLineBreak s)

end Toml
end ChatEmbed

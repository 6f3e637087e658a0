import ChatEmbed.Command
import ChatEmbed.Source

/-!
# Errors of a parse

* `LineFault` is what can be wrong with one line on its own.
* `ParseError` is a fault with its place, or a failure to include a template or to read a file.
* `ParseError.message` puts an error in words, `ParseError.root` is the error inside all templates.
-/

set_option autoImplicit false

namespace ChatEmbed

/-- A range of bytes of a document, without its end. -/
structure Span where
  start : Nat
  stop : Nat
deriving DecidableEq, Repr

/-- What is wrong with a line on its own. -/
inductive LineFault
  | unknownCommand (name : Text)
  /-- The command has no place in this kind of document. -/
  | notAllowed (name : Text) (kind : DocumentKind)
  /-- A template has a title, a field or text. -/
  | contentInTemplate (content : Text)
  | invalidColor (argument : Text) (fault : Color.Fault)
  | invalidTimestamp (argument : Text)
  | invalidReplacement (argument : Text)
deriving DecidableEq, Repr

/-- The fault in words. -/
def LineFault.message : LineFault → Text
  | .unknownCommand name => "unsupported command: " ++ name
  | .notAllowed name kind => "command '" ++ name ++ "' is not allowed in a " ++ kind.word
  | .contentInTemplate content =>
    "templates cannot contain titles, fields or text, found '" ++ content ++ "'"
  | .invalidColor argument fault =>
    "'" ++ argument ++ "' could not be converted into a color: " ++ fault.message
  | .invalidTimestamp argument =>
    "'" ++ argument ++ "' is not a timestamp (expected '$' or epoch seconds)"
  | .invalidReplacement argument => "invalid replacement declaration '" ++ argument ++ "'"

/-- Why a document cannot be parsed. -/
inductive ParseError
  /-- A line of the document itself is at fault; lines are counted from 1. -/
  | line (number : Nat) (span : Span) (fault : LineFault)
  /-- A template includes itself: the templates being read, and the one that comes again. -/
  | cyclic (chain : List Path)
  /-- The chain of templates would grow beyond the limit. -/
  | tooDeep (path : Path) (limit : Nat)
  | unreadable (path : Path) (cause : ReadFailure)
  /-- A template has an error of its own. -/
  | inTemplate (path : Path) (inner : ParseError)
deriving DecidableEq, Repr

namespace ParseError

/-- The error in words. -/
def message : ParseError → Text
  | .line number _ fault => "line " ++ Text.digits number ++ ": " ++ fault.message
  | .cyclic chain => "cyclic template inclusion: " ++ Text.join " -> " chain
  | .tooDeep path limit => "template nesting deeper than " ++ Text.digits limit ++ " at " ++ path
  | .unreadable path cause => "could not read " ++ path ++ ": " ++ cause.message
  | .inTemplate path inner => "in template " ++ path ++ ": " ++ message inner

/-- The number of the line at fault, if it is one of the document itself. -/
def lineNumber? : ParseError → Option Nat
  | .line number _ _ => some number
  | _ => none

/-- The place of the line at fault, if it is one of the document itself. -/
def span? : ParseError → Option Span
  | .line _ span _ => some span
  | _ => none

/-- The error that was raised first, in the innermost template. -/
def root : ParseError → ParseError
  | .inTemplate _ inner => root inner
  | e => e

end ParseError
end ChatEmbed

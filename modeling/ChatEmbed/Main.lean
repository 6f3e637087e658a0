import ChatEmbed.CommandLine.Program
import Std.Time.DateTime.Timestamp

/-!
# The command line

The outer layer of the program: it reads files, the standard input and the clock, and writes what
the program leaves behind.

A run only depends on the files that it asks for. So the program is run over the files read so far,
every file that it asked for in vain is read, and this is repeated until there is no such file.
-/

set_option autoImplicit false

namespace ChatEmbed
namespace Main

/-- The failure that an error of the system stands for. -/
def failureOf (error : IO.Error) : ReadFailure :=
  match error with
  | .noFileOrDirectory .. => .noSuchFile
  | .inappropriateType _ code _ => if code = 20 then .notDirectory else .isDirectory
  | .resourceExhausted _ 36 _ | .invalidArgument _ 36 _ => .nameTooLong
  | error => .system error.toString.toList

/-- The text of some bytes. -/
def decode (bytes : ByteArray) : Except ReadFailure Text :=
  match String.fromUTF8? bytes with
  | some s => .ok s.toList
  | none => .error .notUnicode

/-- The text of a file. -/
def readFile (path : Path) : IO (Except ReadFailure Text) := do
  if '\x00' ∈ path then return .error .zeroInName
  try
    return decode (← IO.FS.readBinFile (String.ofList path))
  catch error =>
    return .error (failureOf error)

/-- The rest of a stream. -/
partial def readAll (stream : IO.FS.Stream) (done : ByteArray) : IO ByteArray := do
  let chunk ← stream.read 65536
  if chunk.isEmpty then return done
  readAll stream (done ++ chunk)

/-- The outcome of the program over the files of the system. -/
partial def settle (input : Except ReadFailure Text) (now : Text) (arguments : List Text)
    (known : List (Path × Except ReadFailure Text)) : IO Program.Outcome := do
  let source : Source := fun path => (known.lookup path).getD (.error .noSuchFile)
  let (asked, outcome) := Program.run { source, input, now } arguments
  let unknown := asked.filter fun path => (known.lookup path).isNone
  if unknown.isEmpty then return outcome
  let read ← unknown.mapM fun path => return (path, ← readFile path)
  settle input now arguments (read ++ known)

/-- Whether the program needs its standard input. -/
def needsInput (arguments : List Text) : Bool :=
  match Options.read arguments with
  | .ok options => options.input.isNone
  | .error _ => false

/-- The current time in its written form. -/
def currentTime : IO Text := do
  let now ← Std.Time.Timestamp.now
  return (Calendar.DateTime.ofSeconds now.toSecondsSinceUnixEpoch.val).write

end Main
end ChatEmbed

open ChatEmbed in
/-- Compiles the document that the arguments name and prints its JSON form. -/
def main (arguments : List String) : IO UInt32 := do
  let arguments := arguments.map String.toList
  let input ←
    if Main.needsInput arguments then
      Main.decode <$> (IO.getStdin >>= fun stream => Main.readAll stream ByteArray.empty)
    else pure (.ok [])
  let outcome ← Main.settle input (← Main.currentTime) arguments []
  (← IO.getStdout).putStr (String.ofList outcome.output)
  (← IO.getStderr).putStr (String.ofList outcome.errors)
  return outcome.exitCode.toUInt32

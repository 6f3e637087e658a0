import ChatEmbed.Calendar
import ChatEmbed.Text.Blank

/-!
# Timestamps

A timestamp is given as the current time, `$`, or as a count of seconds since the start of 1970.

* `Timestamp.isRepresentable` is the range of times that can be written.
* `Timestamp.read` gives the written form of the time an argument denotes.
-/

set_option autoImplicit false

namespace ChatEmbed
namespace Timestamp

/-- The first second that can be written. -/
def first : Int := -8334601228800

/-- The last second that can be written. -/
def last : Int := 8210266876799

/-- Whether a time can be written. -/
def isRepresentable (seconds : Int) : Bool :=
  first ≤ seconds && seconds ≤ last

/-- The written form of a count of seconds since the start of 1970. -/
def ofSeconds? (seconds : Int) : Option Text :=
  if isRepresentable seconds then some (Calendar.DateTime.ofSeconds seconds).write else none

/-- The written form of the time that an argument denotes, `now` being that of the current time. -/
def read (now argument : Text) : Option Text :=
  let trimmed := Text.trim argument
  if trimmed = "$".toList then some now else (Text.integer? trimmed).bind ofSeconds?

end Timestamp
end ChatEmbed

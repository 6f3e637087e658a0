import ChatEmbed.Path

/-!
# Runs and what they do outside

A parse asks for files and goes into templates. A `Run` keeps the list of these events next to its
result, so that what was read, and which templates were open at the time, can be stated.

* `Event` is one thing that happened, `Run` the events with the result.
* `Run.reads` lists the files that were asked for, in order.
* `Event.openFiles` replays events to the templates that are open after them.
-/

set_option autoImplicit false

namespace ChatEmbed

/-- Something a run does that the outside can see. -/
inductive Event
  /-- The file is asked for. -/
  | read (path : Path)
  /-- The template is being parsed from here on. -/
  | enter (path : Path)
  /-- The template is no longer being parsed. -/
  | leave (path : Path)
deriving DecidableEq, Repr

namespace Event

/-- The file that an event asks for. -/
def asked? : Event → Option Path
  | .read path => some path
  | _ => none

/-- The open templates, outermost first, after one more event. -/
def follow (opened : List Path) : Event → List Path
  | .read _ => opened
  | .enter path => opened ++ [path]
  | .leave _ => opened.dropLast

/-- The templates that are open after the events, outermost first. -/
def openFiles (events : List Event) : List Path :=
  events.foldl follow []

end Event

/-- What happened, and how it ended. -/
structure Run (ε α : Type) where
  events : List Event
  result : Except ε α

namespace Run

variable {ε ε' α β : Type}

/-- A run in which nothing happens. -/
def ofExcept (result : Except ε α) : Run ε α :=
  ⟨[], result⟩

/-- A run that ends with an error at once. -/
def fail (error : ε) : Run ε α :=
  ⟨[], .error error⟩

/-- A run that consists of one event. -/
def note (event : Event) : Run ε Unit :=
  ⟨[event], .ok ()⟩

/-- One run after the other, unless the first one fails. -/
def andThen (first : Run ε α) (next : α → Run ε β) : Run ε β :=
  match first.result with
  | .ok value => ⟨first.events ++ (next value).events, (next value).result⟩
  | .error error => ⟨first.events, .error error⟩

instance : Monad (Run ε) where
  pure value := ⟨[], .ok value⟩
  bind := andThen

/-- The same run with its error seen from outside. -/
def mapError (f : ε → ε') (run : Run ε α) : Run ε' α :=
  ⟨run.events, run.result.mapError f⟩

/-- The run between two events that happen however it ends. -/
def between (before after : Event) (run : Run ε α) : Run ε α :=
  ⟨before :: run.events ++ [after], run.result⟩

/-- The files that a run asks for, in order. -/
def reads (run : Run ε α) : List Path :=
  run.events.filterMap Event.asked?

@[simp] theorem pure_eq (value : α) : (pure value : Run ε α) = ⟨[], .ok value⟩ := rfl

@[simp] theorem bind_ok (events : List Event) (value : α) (next : α → Run ε β) :
    (⟨events, .ok value⟩ : Run ε α) >>= next
      = ⟨events ++ (next value).events, (next value).result⟩ := rfl

@[simp] theorem bind_error (events : List Event) (error : ε) (next : α → Run ε β) :
    (⟨events, .error error⟩ : Run ε α) >>= next = ⟨events, .error error⟩ := rfl

/-- Two runs in a row give a value when both of them do. -/
theorem result_bind_eq_ok_iff {first : Run ε α} {next : α → Run ε β} {value : β} :
    (first >>= next).result = .ok value ↔
      ∃ a, first.result = .ok a ∧ (next a).result = .ok value := by
  obtain ⟨events, _ | a⟩ := first <;> simp

/-- Two runs in a row fail when the first one does, or else the second. -/
theorem result_bind_eq_error_iff {first : Run ε α} {next : α → Run ε β} {error : ε} :
    (first >>= next).result = .error error ↔
      first.result = .error error ∨ ∃ a, first.result = .ok a ∧ (next a).result = .error error := by
  obtain ⟨events, _ | a⟩ := first <;> simp

end Run
end ChatEmbed

import ChatEmbed.Compiler

/-!
# A library of compiled documents

A library keeps what it has compiled, under the path of the file and under the name that the
document gives itself. What failed is not kept.

* `Cache` is a store under paths and names.
* `Library.compile` and `Library.blueprint` answer from the store or compute and store;
  `Library.loadEmbed` and `Library.loadBlueprint` look a name up.
* `Library.perform` answers one `Request`, `Library.performAll` a list of them.
-/

set_option autoImplicit false

namespace ChatEmbed

/-- Values stored under normalized paths and under names; of two values stored under the same name
the later one counts. -/
structure Cache (α : Type) where
  byPath : List (Path × α) := []
  byName : List (Text × α) := []

namespace Cache

variable {α : Type}

/-- The value stored under a path, in any spelling. -/
def findPath? (cache : Cache α) (path : Path) : Option α :=
  cache.byPath.lookup (Path.normalize path)

/-- The value stored under a name. -/
def findName? (cache : Cache α) (name : Text) : Option α :=
  cache.byName.lookup name

/-- The cache with a value stored under a path and, if there is one, a name. -/
def store (cache : Cache α) (path : Path) (name : Option Text) (value : α) : Cache α where
  byPath := (Path.normalize path, value) :: cache.byPath
  byName := match name with
    | some name => (name, value) :: cache.byName
    | none => cache.byName

end Cache

/-- Why a library has no answer. -/
inductive LibraryError
  | compile (error : CompileError)
  /-- No document of this name has been compiled. -/
  | notLoaded (name : Text)
deriving DecidableEq, Repr

/-- The error in words. -/
def LibraryError.message : LibraryError → Text
  | .compile error => error.message
  | .notLoaded name => "embed \"" ++ name ++ "\" is not loaded"

/-- Compiled embeds and parsed blueprints. -/
structure Library where
  setting : Setting
  caching : Bool := true
  embeds : Cache Json := {}
  blueprints : Cache Blueprint := {}

namespace Library

/-- The library that from now on computes every answer to `compile` and `blueprint`. -/
def disableCaching (library : Library) : Library :=
  { library with caching := false }

/-- The library over other files, with all it has stored. -/
def withSource (library : Library) (source : Source) : Library :=
  { library with setting := { library.setting with source } }

/-- The embed of a file with its JSON form. -/
def computeEmbed (setting : Setting) (path : Path) : Run CompileError (Option Text × Json) :=
  do
    let document ← (setting.parseFile .embed path).mapError .parse
    let value ← (Run.ofExcept document.embed.payload).mapError .content
    return (document.name, value)

/-- The JSON form of the embed that a file describes. -/
def compile (library : Library) (path : Path) : Library × Run CompileError Json :=
  if library.caching then
    match library.embeds.findPath? path with
    | some value => (library, pure value)
    | none =>
      let run := computeEmbed library.setting path
      match run.result with
      | .ok (name, value) =>
        ({ library with embeds := library.embeds.store path name value },
          ⟨run.events, .ok value⟩)
      | .error error => (library, ⟨run.events, .error error⟩)
  else (library, library.setting.compileFile path)

/-- The blueprint that a file describes. -/
def blueprint (library : Library) (path : Path) : Library × Run CompileError Blueprint :=
  if library.caching then
    match library.blueprints.findPath? path with
    | some document => (library, pure document)
    | none =>
      let run := (library.setting.parseFile .blueprint path).mapError .parse
      match run.result with
      | .ok document =>
        ({ library with
            blueprints := library.blueprints.store path document.name document }, run)
      | .error _ => (library, run)
  else (library, (library.setting.parseFile .blueprint path).mapError .parse)

/-- The JSON form of the embed last compiled under a name. -/
def loadEmbed (library : Library) (name : Text) : Except LibraryError Json :=
  match library.embeds.findName? name with
  | some value => .ok value
  | none => .error (.notLoaded name)

/-- The blueprint last parsed under a name. -/
def loadBlueprint (library : Library) (name : Text) : Except LibraryError Blueprint :=
  match library.blueprints.findName? name with
  | some document => .ok document
  | none => .error (.notLoaded name)

/-! ## Requests -/

/-- Something that a library is asked to do. -/
inductive Request
  | compile (path : Path)
  | blueprint (path : Path)
  | loadEmbed (name : Text)
  | loadBlueprint (name : Text)
  | disableCaching
  /-- The files have changed. -/
  | changeSource (source : Source)

/-- What a request is answered with. -/
inductive Answer
  | done
  | embed (value : Json)
  | blueprint (document : Blueprint)
deriving Repr

/-- The answer to one request, with what it did outside, and the library after it. -/
def perform (library : Library) : Request → Library × Run LibraryError Answer
  | .compile path =>
    let (next, run) := library.compile path
    (next, do return .embed (← run.mapError .compile))
  | .blueprint path =>
    let (next, run) := library.blueprint path
    (next, do return .blueprint (← run.mapError .compile))
  | .loadEmbed name => (library, do return .embed (← Run.ofExcept (library.loadEmbed name)))
  | .loadBlueprint name =>
    (library, do return .blueprint (← Run.ofExcept (library.loadBlueprint name)))
  | .disableCaching => (library.disableCaching, pure .done)
  | .changeSource source => (library.withSource source, pure .done)

/-- The answers to a list of requests, and the library after them. -/
def performAll (library : Library) : List Request → Library × List (Run LibraryError Answer)
  | [] => (library, [])
  | request :: rest =>
    let (next, answer) := library.perform request
    let (last, answers) := next.performAll rest
    (last, answer :: answers)

end Library
end ChatEmbed

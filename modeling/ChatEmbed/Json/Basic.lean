import ChatEmbed.Double
import ChatEmbed.Text.Basic

/-!
# JSON values

* `Json` is a JSON value. An object keeps the order of its entries.
* `Json.isEmpty` are the values that say nothing: null, false, zero and everything of length zero.
* `Json.mapText` changes the texts of a value and leaves keys alone, `Json.prune` removes the
  entries of objects that say nothing.
* `Json.Entries.insert` adds an entry to an object, `insertFilled` only if its value is not empty.
-/

set_option autoImplicit false

namespace ChatEmbed

/-- A JSON value. -/
inductive Json
  | null
  | bool (value : Bool)
  /-- A whole number that is held exactly. -/
  | number (value : Int)
  /-- A number in double precision: one with a fraction, a large one, or a zero with a sign. -/
  | real (value : Double)
  | text (value : Text)
  | list (items : List Json)
  | object (entries : List (Text × Json))
deriving Repr

namespace Json

instance : Inhabited Json := ⟨.null⟩

/-- A whole number. -/
def ofNat (n : Nat) : Json :=
  .number n

/-- Whether a value says nothing. -/
def isEmpty : Json → Bool
  | .null => true
  | .bool value => !value
  | .number value => value == 0
  | .real value => value.isZero
  | .text value => value.isEmpty
  | .list items => items.isEmpty
  | .object entries => entries.isEmpty

/-- The value under a key of an object. -/
def get? (key : Text) : Json → Option Json
  | .object entries => entries.lookup key
  | _ => none

/-- The text under a key of an object, or the empty text. -/
def textAt (key : Text) (value : Json) : Text :=
  match value.get? key with
  | some (.text s) => s
  | _ => []

/-- The items of the list under a key of an object, or none. -/
def itemsAt (key : Text) (value : Json) : List Json :=
  match value.get? key with
  | some (.list items) => items
  | _ => []

/-! ## Walking a whole value -/

mutual

/-- The value with every text changed; keys stay as they are. -/
def mapText (f : Text → Text) : Json → Json
  | .text value => .text (f value)
  | .list items => .list (mapTextItems f items)
  | .object entries => .object (mapTextEntries f entries)
  | value => value

/-- The items with every text in them changed. -/
def mapTextItems (f : Text → Text) : List Json → List Json
  | [] => []
  | item :: rest => mapText f item :: mapTextItems f rest

/-- The entries with every text in their values changed. -/
def mapTextEntries (f : Text → Text) : List (Text × Json) → List (Text × Json)
  | [] => []
  | (key, value) :: rest => (key, mapText f value) :: mapTextEntries f rest

end

mutual

/-- The value without the object entries that say nothing, innermost first. -/
def prune : Json → Json
  | .list items => .list (pruneItems items)
  | .object entries => .object (pruneEntries entries)
  | value => value

/-- The items, each pruned; none is removed. -/
def pruneItems : List Json → List Json
  | [] => []
  | item :: rest => prune item :: pruneItems rest

/-- The entries, each pruned, without those that then say nothing. -/
def pruneEntries : List (Text × Json) → List (Text × Json)
  | [] => []
  | (key, value) :: rest =>
    if (prune value).isEmpty then pruneEntries rest else (key, prune value) :: pruneEntries rest

end

/-! ## Building objects -/

/-- The entries of an object. -/
abbrev Entries := List (Text × Json)

namespace Entries

/-- The entries with one more; a key that is there already keeps its place and gets the value. -/
def insert (key : Text) (value : Json) : Entries → Entries
  | [] => [(key, value)]
  | (k, v) :: rest => if k = key then (k, value) :: rest else (k, v) :: insert key value rest

/-- The entries with one more, unless its value says nothing. -/
def insertFilled (entries : Entries) (key : Text) (value : Json) : Entries :=
  if value.isEmpty then entries else insert key value entries

/-- The entries that say something, inserted one after the other into nothing. -/
def ofFilled (entries : Entries) : Entries :=
  entries.foldl (fun done entry => done.insertFilled entry.1 entry.2) []

end Entries

/-- The object of the entries that say something. -/
def filled (entries : Entries) : Json :=
  .object (Entries.ofFilled entries)

end Json
end ChatEmbed

import ChatEmbed.Text.Basic

/-!
# The tree of a TOML document

Tables come into being in four ways, and how a table came into being decides what may be added to
it later.

* `Toml` is a value, a table or a list of tables, `Toml.Origin` how a table came into being.
* `Toml.within` goes down a path of keys and changes the table at its end.
* `Toml.define` gives a dotted key a value, `Toml.openTable` and `Toml.openElement` are what
  headers do. All three refuse to define anything twice.
-/

set_option autoImplicit false

namespace ChatEmbed

/-- How a table came into being. -/
inductive Toml.Origin
  /-- On the way to the table of a header; a header of its own may still follow. -/
  | implied
  /-- On the way to a dotted key; only dotted keys may add to it. -/
  | dotted
  /-- By a header, or as the root. -/
  | header
  /-- Between braces; it is complete. -/
  | braces
deriving DecidableEq, Repr

/-- A node of a TOML document. Of values that no configuration needs only the kind is kept. -/
inductive Toml
  | text (value : Text)
  | integer (value : Int)
  | float
  | boolean
  | dateTime
  | array (items : List Toml)
  | table (origin : Toml.Origin) (entries : List (Text × Toml))
  /-- The tables of headers with double brackets. -/
  | tables (elements : List (List (Text × Toml)))
deriving Repr

namespace Toml

/-- The entries of a table. -/
abbrev Entries := List (Text × Toml)

/-- The entries with the value of one key changed; `f` is given the value, if there is one, and may
refuse. -/
def alter (key : Text) (f : Option Toml → Option Toml) : Entries → Option Entries
  | [] => (f none).map fun value => [(key, value)]
  | (k, v) :: rest =>
    if k = key then (f (some v)).map fun value => (k, value) :: rest
    else (alter key f rest).map ((k, v) :: ·)

/-- The entries with one more, unless its key is there already. -/
def addNew (key : Text) (value : Toml) (entries : Entries) : Option Entries :=
  alter key (fun found => if found.isNone then some value else none) entries

/-- The entries with the table at the end of a path changed; tables on the way are made where there
are none, and of a list of tables the last one is meant. Complete tables cannot be entered, and
those of headers not by dotted keys. -/
def within (byDots : Bool) (f : Origin → Entries → Option Entries) :
    List Text → Origin → Entries → Option Entries
  | [], origin, entries => f origin entries
  | key :: path, _, entries =>
    alter key (fun found => match found with
      | none =>
        let origin := if byDots then Origin.dotted else .implied
        (within byDots f path origin []).map (.table origin)
      | some (.table origin inner) =>
        if origin = .braces ∨ (byDots ∧ origin = .header) then none
        else (within byDots f path origin inner).map (.table origin)
      | some (.tables elements) =>
        match elements.reverse with
        | [] => none
        | last :: others =>
          (within byDots f path .header last).map fun inner =>
            .tables (others.reverse ++ [inner])
      | some _ => none) entries

/-- The entries with a value under a dotted key. A key without dots belongs to the table itself, one
with dots to a table that dotted keys have made. -/
def define (path : List Text) (key : Text) (value : Toml) : Origin → Entries → Option Entries :=
  within true (fun origin entries =>
    if decide (origin = .dotted) = path.isEmpty then none else addNew key value entries) path

/-- The root with a value under a dotted key of the table that a header has opened. -/
def defineIn (header path : List Text) (key : Text) (value : Toml) (root : Entries) :
    Option Entries :=
  within false (define path key value) header .header root

/-- The root with the table of a header, which no header may have opened before. -/
def openTable (path : List Text) (key : Text) (root : Entries) : Option Entries :=
  within false (fun _ => alter key fun found => match found with
    | none => some (.table .header [])
    | some (.table .implied inner) => some (.table .header inner)
    | some _ => none) path .header root

/-- The root with one more table in the list of a header with double brackets. -/
def openElement (path : List Text) (key : Text) (root : Entries) : Option Entries :=
  within false (fun _ => alter key fun found => match found with
    | none => some (.tables [[]])
    | some (.tables elements) => some (.tables (elements ++ [[]]))
    | some _ => none) path .header root

end Toml
end ChatEmbed

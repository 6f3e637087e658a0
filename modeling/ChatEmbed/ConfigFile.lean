import ChatEmbed.Config
import ChatEmbed.Source
import ChatEmbed.Toml.Document

/-!
# Configuration files

A configuration file is a TOML document with a table `templates`. What it does not set keeps its
default, and what it sets besides is ignored.

* `Config.ofToml?` reads the text of a configuration file.
* `Config.load` reads a configuration file, `ConfigError` says why that can fail.
-/

set_option autoImplicit false

namespace ChatEmbed

/-- Why a configuration file cannot be used. -/
inductive ConfigError
  | unreadable (cause : ReadFailure)
  /-- The text is no TOML document, or a setting has a value of the wrong kind. -/
  | malformed
deriving DecidableEq, Repr

/-- The error in words. -/
def ConfigError.message : ConfigError → Text
  | .unreadable cause => "Failed to read config file: " ++ cause.message
  | .malformed => "Failed to parse config TOML"

namespace Config

/-- The setting of a text, which keeps its default if there is no value. -/
def textSetting (fallback : Text) : Option Toml → Option Text
  | none => some fallback
  | some (.text value) => some value
  | some _ => none

/-- The setting of a count, which keeps its default if there is no value. -/
def countSetting (fallback : Nat) : Option Toml → Option Nat
  | none => some fallback
  | some (.integer value) => if 0 ≤ value then some value.toNat else none
  | some _ => none

/-- The configuration with the given values for its three settings. -/
def ofSettings? (extension suffix maxDepth : Option Toml) : Option Config := do
  let standard : Config := {}
  return {
    extension := ← textSetting standard.extension extension
    suffix := ← textSetting standard.suffix suffix
    maxDepth := ← countSetting standard.maxDepth maxDepth }

/-- The configuration of the value of `templates`: a table, or the three settings in a row. A time
is taken for a table without settings. -/
def ofTemplates? : Option Toml → Option Config
  | none => some {}
  | some (.table _ entries) =>
    ofSettings? (entries.lookup "extension".toList) (entries.lookup "suffix".toList)
      (entries.lookup "max_depth".toList)
  | some (.array (extension :: suffix :: maxDepth :: _)) =>
    ofSettings? (some extension) (some suffix) (some maxDepth)
  | some .dateTime => some {}
  | some _ => none

/-- The configuration that a text describes. -/
def ofToml? (s : Text) : Option Config := do
  let root ← Toml.read s
  ofTemplates? (root.lookup "templates".toList)

/-- The configuration that a file describes. -/
def load (source : Source) (path : Path) : Except ConfigError Config :=
  match source path with
  | .error cause => .error (.unreadable cause)
  | .ok content =>
    match ofToml? content with
    | some config => .ok config
    | none => .error .malformed

end Config
end ChatEmbed

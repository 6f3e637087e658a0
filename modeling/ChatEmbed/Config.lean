import ChatEmbed.Path

/-!
# Configuration

* `Config` says how the name of a template becomes the name of a file, and how deep templates may
  include each other.
* `Config.templatePath` is the file of a template included from a directory.
-/

set_option autoImplicit false

namespace ChatEmbed

/-- How templates are found. -/
structure Config where
  /-- The last part of a file name, after its dot. -/
  extension : Text := "dem"
  /-- What stands between the name of a template and the extension. -/
  suffix : Text := "template"
  /-- The longest chain of templates including templates. -/
  maxDepth : Nat := 32
deriving DecidableEq, Repr

namespace Config

instance : Inhabited Config := ⟨{}⟩

/-- The file name of a template. -/
def templateFileName (config : Config) (name : Text) : Text :=
  name ++ '.' :: config.suffix ++ '.' :: config.extension

/-- The path of a template that is included from a directory. -/
def templatePath (config : Config) (dir : Path) (name : Text) : Path :=
  Path.normalize (Path.join dir (config.templateFileName name))

end Config
end ChatEmbed

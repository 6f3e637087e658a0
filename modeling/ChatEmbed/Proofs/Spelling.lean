import ChatEmbed.Proofs.Joining
import ChatEmbed.Proofs.Schema

/-!
# The spelling of a path does not matter

A file in memory is found under any spelling of its path, but the templates of a document are sought
from the directory that was spelled out.  Folding is what brings the two together: a path that ends
in a name is its directory with that name on top, so two spellings of it have directories with the
same normal form, and whatever is put below these has the same normal form too.

* `loadTemplate_congr` says that only the normal form of a directory matters for the templates that
  are loaded from it, at any depth.
* `Agree` is what two runs that read the same file under two spellings have in common: everything but
  the spelling itself.
-/

set_option autoImplicit false

namespace ChatEmbed

/-! ## Directories with the same normal form -/

section

variable {dir other : Path}

theorem Config.templatePath_congr (config : Config)
    (h : Path.normalize dir = Path.normalize other) (name : Text) :
    config.templatePath dir name = config.templatePath other name :=
  Path.normalize_join_congr h (config.templateFileName name)

/-- **A template is the same from every spelling of a directory**, and so is all that is read and
opened on the way to it. -/
theorem loadTemplate_congr (setting : Setting) (room : Nat) (chain : List Path)
    (h : Path.normalize dir = Path.normalize other) (name : Text) :
    loadTemplate setting room chain dir name = loadTemplate setting room chain other name := by
  rw [loadTemplate.eq_def, loadTemplate.eq_def setting room chain other name]
  dsimp only
  rw [setting.config.templatePath_congr h name]

theorem Setting.parseLines_congr (setting : Setting) (kind : DocumentKind)
    (h : Path.normalize dir = Path.normalize other) (lines : List Text) :
    setting.parseLines kind dir lines = setting.parseLines kind other lines := by
  have hload : setting.template dir = setting.template other :=
    funext fun name ↦ loadTemplate_congr setting setting.config.maxDepth [] h name
  rw [parseLines, parseLines, hload]

end

/-! ## Two spellings of one path -/

/-- The directory in which the document of a file looks up the templates that it asks for. -/
def Setting.homeOf (path : Path) : Path := (Path.parent? path).getD "."

theorem Path.EndsInName.normalize_homeOf_eq {first second : Path} (hfirst : EndsInName first)
    (hsecond : EndsInName second) (h : normalize first = normalize second) :
    normalize (Setting.homeOf first) = normalize (Setting.homeOf second) := by
  obtain ⟨dir, other, hdir, hother, hnormal⟩ := hfirst.normalize_parent_eq hsecond h
  rw [Setting.homeOf, Setting.homeOf, hdir, hother]
  exact hnormal

/-- A file in memory is the same under every spelling of its path. -/
theorem MemoryFiles.get?_congr (files : MemoryFiles) {first second : Path}
    (h : Path.normalize first = Path.normalize second) : files.get? first = files.get? second := by
  rw [get?, get?, h]

/-- The runs ask for a file under one spelling each and then do the same, with the same result; or
they find no file and say so, in the spelling that they were given. -/
inductive Agree {α : Type} (first second : Path) : Run ParseError α → Run ParseError α → Prop
  | same (events : List Event) (result : Except ParseError α) :
      Agree first second ⟨.read first :: events, result⟩ ⟨.read second :: events, result⟩
  | missing :
      Agree first second ⟨[.read first], .error (.unreadable first (.notStored first))⟩
        ⟨[.read second], .error (.unreadable second (.notStored second))⟩

namespace Agree

variable {α β : Type} {first second : Path}

/-- Runs that agree still do after the same conversion of their values. -/
theorem map {run other : Run ParseError α} (h : Agree first second run other) (f : α → β) :
    Agree first second (f <$> run) (f <$> other) := by
  cases h with
  | same events result =>
    cases result with
    | error error => exact .same events (.error error)
    | ok value => exact .same (events ++ []) (.ok (f value))
  | missing => exact .missing

/-- Of runs that agree, one succeeds with a value when the other one does. -/
theorem result_eq_ok_iff {run other : Run ParseError α} (h : Agree first second run other)
    (value : α) : run.result = .ok value ↔ other.result = .ok value := by
  cases h with
  | same events result => exact Iff.rfl
  | missing => exact ⟨nofun, nofun⟩

end Agree

namespace Setting

variable {setting : Setting} {files : MemoryFiles} {first second : Path}

theorem agree_parseFile (hsource : setting.source = files.source) (hfirst : first.EndsInName)
    (hsecond : second.EndsInName) (h : first.normalize = second.normalize) (kind : DocumentKind) :
    Agree first second (setting.parseFile kind first) (setting.parseFile kind second) := by
  have hhome := setting.parseLines_congr kind (hfirst.normalize_homeOf_eq hsecond h)
  have hget := files.get?_congr h
  rw [parseFile, parseFile, hsource, Source.readLines, Source.readLines, MemoryFiles.source,
    MemoryFiles.source, ← hget, ← homeOf, ← homeOf]
  cases files.get? first with
  | none => exact .missing
  | some content =>
    simp only [Except.map, hhome]
    exact .same _ _

theorem attributes_parseTemplateFile (setting : Setting) (path : Path) :
    Template.attributes <$> setting.parseTemplateFile path =
      (fun document ↦ document.embed.attributes) <$> setting.parseFile .template path := by
  rw [parseTemplateFile]
  obtain ⟨events, error | document⟩ := setting.parseFile .template path
  · rfl
  · simp [Functor.map, Run.andThen]

end Setting

/-- **The spelling of a path does not matter.**  Let the files be in memory, and let two paths with
the same normal form both end in a name.  Reading either as a document of whatever kind, or for the
attributes of a template, comes to the same, but for the spelling in the first request and in the
error if there is no such file.  Every template that the file asks for is the same template with the
same run below it, and the JSON form of the file, which is what is kept under the normal form, is the
same. -/
theorem parseFile_spelling {setting : Setting} {files : MemoryFiles} {first second : Path}
    (hsource : setting.source = files.source) (hfirst : first.EndsInName)
    (hsecond : second.EndsInName) (h : first.normalize = second.normalize) :
    (∀ kind, Agree first second (setting.parseFile kind first) (setting.parseFile kind second)) ∧
    Agree first second (Template.attributes <$> setting.parseTemplateFile first)
      (Template.attributes <$> setting.parseTemplateFile second) ∧
    (∀ name, setting.config.templatePath (Setting.homeOf first) name =
        setting.config.templatePath (Setting.homeOf second) name ∧
      setting.template (Setting.homeOf first) name =
        setting.template (Setting.homeOf second) name) ∧
    ∀ value, (setting.compileFile first).result = .ok value ↔
      (setting.compileFile second).result = .ok value := by
  have hagree := Setting.agree_parseFile hsource hfirst hsecond h
  have hhome := hfirst.normalize_homeOf_eq hsecond h
  refine ⟨hagree, ?_, fun name ↦ ⟨?_, ?_⟩, fun value ↦ ?_⟩
  · rw [Setting.attributes_parseTemplateFile, Setting.attributes_parseTemplateFile]
    exact (hagree .template).map _
  · exact setting.config.templatePath_congr hhome name
  · exact loadTemplate_congr setting setting.config.maxDepth [] hhome name
  · rw [Setting.compileFile, Setting.compileFile, Setting.finish_eq_ok_iff,
      Setting.finish_eq_ok_iff]
    simp only [(hagree .embed).result_eq_ok_iff]

/-- A document that asks for its template in a roundabout way, and a template that asks for another
one. -/
def roundabout : MemoryFiles where
  entries := [
    ("in/card.dem", "@template ../share/base\n# A\nb".toList),
    ("share/base.template.dem", "@template ./ink".toList),
    ("share/ink.template.dem", "%1".toList)]

/-- From the directory `in/../in` the templates are found as they are from `./in/`. -/
theorem parseFile_spelling_roundabout :
    Path.normalize "in/../in/card.dem" = Path.normalize "./in//card.dem" ∧
    (Setting.parseFile { source := roundabout.source } .embed "./in//card.dem").result
      = .ok { embed := {
          title := "A".toList, text := " b".toList, attributes := { color := 0x010101 } } } ∧
    (Setting.parseFile { source := roundabout.source } .embed "in/../in/card.dem").result
      = .ok { embed := {
          title := "A".toList, text := " b".toList, attributes := { color := 0x010101 } } } := by
  have hnormal : Path.normalize "in/../in/card.dem" = Path.normalize "./in//card.dem" := by decide
  have hplain : (Setting.parseFile { source := roundabout.source } .embed "./in//card.dem").result
      = .ok { embed := {
          title := "A".toList, text := " b".toList, attributes := { color := 0x010101 } } } := by
    decide +kernel
  refine ⟨hnormal, hplain, ?_⟩
  have hagree := (@parseFile_spelling { source := roundabout.source } roundabout
    "in/../in/card.dem" "./in//card.dem" rfl ⟨"card.dem", by decide⟩ ⟨"card.dem", by decide⟩
    hnormal).1 .embed
  exact (hagree.result_eq_ok_iff _).mpr hplain

end ChatEmbed

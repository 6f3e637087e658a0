import ChatEmbed.Proofs.Inclusion
import ChatEmbed.Proofs.Locality

/-!
# Who is to blame for an error

An error that comes up inside templates is wrapped once for each of them, while the chain of open
templates is taken down again.  The wrapping can be trusted: it spells out a way through the files
that leads to the fault, and what the innermost error says of itself, a place, a cycle, or the
limit, is said of the end of that way.

* `Page` are lines together with what they are read as and where.
* `Trail` is a way from one page to another through the templates that are entered one inside the
  other.  Unlike the templates of a `Walk` all of these exist.
* `Blames` lists what the innermost error can be at the end of a trail, and `parseLines_blames` says
  that every error is one of these, wrapped in the templates of a trail.
-/

set_option autoImplicit false

namespace ChatEmbed

/-! ## Ways through the files -/

/-- Lines with the kind of document that they make and the directory in which their templates are
sought. -/
structure Page where
  kind : DocumentKind
  dir : Path
  lines : List Text

namespace Page

/-- The page that a template file is. -/
def ofTemplate (path : Path) (file : List Text) : Page := ⟨.template, Setting.dirOf path, file⟩

/-- The paths of the templates that a page asks for. -/
def targets (page : Page) (config : Config) : List Path := config.targets page.dir page.lines

end Page

/-- A way from a page to another one, through the templates of the list: each is asked for by the
page before it and makes the page after it. -/
inductive Trail (setting : Setting) : Page → List Path → Page → Prop
  | here (page : Page) : Trail setting page [] page
  | into {page inner : Page} {target : Path} {file : List Text} {rest : List Path}
      (asked : target ∈ page.targets setting.config)
      (read : setting.source.readLines target = .ok file)
      (onward : Trail setting (Page.ofTemplate target file) rest inner) :
      Trail setting page (target :: rest) inner

/-- The error as it is seen from outside of templates, the outermost first. -/
def ParseError.within (opened : List Path) (error : ParseError) : ParseError :=
  opened.foldr .inTemplate error

theorem ParseError.root_within (opened : List Path) (error : ParseError) :
    (error.within opened).root = error.root := by
  induction opened with
  | nil => rfl
  | cons _ _ ih => exact ih

/-! ## The innermost error -/

/-- What can go wrong on a page while the templates of the list are open, whatever becomes of the
templates that the page asks for. -/
inductive Blames (setting : Setting) (opened : List Path) (page : Page) : ParseError → Prop
  /-- A line of the page is at fault, and the error has its place. -/
  | line {before after : List Text} {line : Text} {fault : LineFault}
      (split : page.lines = before ++ line :: after)
      (faulty : Directive.read page.kind setting.now (Text.chomp line) = .error fault) :
      Blames setting opened page (.line (before.length + 1) (lineSpan before line) fault)
  /-- The page asks for one of the open templates.  The error lists them all, and that one again. -/
  | cyclic {again : Path} (asked : again ∈ page.targets setting.config)
      (once : opened.count again = 1) : Blames setting opened page (.cyclic (opened ++ [again]))
  /-- The page asks for one template more than the limit allows to be open. -/
  | tooDeep {path : Path} (asked : path ∈ page.targets setting.config) (fresh : path ∉ opened)
      (full : opened.length = setting.config.maxDepth) :
      Blames setting opened page (.tooDeep path setting.config.maxDepth)
  /-- The page asks for a template that is there but cannot be read. -/
  | unreadable {path : Path} {failure : ReadFailure} (asked : path ∈ page.targets setting.config)
      (fresh : path ∉ opened) (read : setting.source.readLines path = .error failure)
      (there : failure.isMissing = false) :
      Blames setting opened page (.unreadable path failure)

/-- The innermost error is not wrapped. -/
theorem Blames.ne_inTemplate {setting : Setting} {opened : List Path} {page : Page}
    {root : ParseError} (h : Blames setting opened page root) (path : Path) (nested : ParseError) :
    root ≠ .inTemplate path nested := by
  cases h <;> exact fun hroot ↦ by cases hroot

/-! ## One level of the search, and all of it -/

section

variable {setting : Setting} {room : Nat} {chain : List Path} {page : Page} {error : ParseError}

/-- A page fails by itself, or because of a template that it asks for. -/
theorem blames_or_load_eq_error
    (h : (documentOfLines (loadTemplate setting room chain page.dir) page.kind setting.now
      page.lines).result = .error error) :
    Blames setting chain page error ∨
      ∃ name, setting.config.templatePath page.dir name ∈ page.targets setting.config ∧
        (loadTemplate setting room chain page.dir name).result = .error error := by
  obtain ⟨before, line, after, hlines, -, hline⟩ := documentOfLines_eq_error_iff_exists.mp h
  rcases lineEdit_eq_error_iff.mp hline with ⟨fault, hfault, rfl⟩ | ⟨name, hname, hload⟩
  · exact .inl (.line hlines hfault)
  · right
    have hmem : line ∈ page.lines := by
      rw [hlines]
      exact List.mem_append_right _ List.mem_cons_self
    exact ⟨name, Config.mem_targets.mpr ⟨line, hmem, name, hname, rfl⟩, hload⟩

/-- **Every error is at the end of a trail** that goes on from the templates of the chain.  The
induction is on the room that is left below them. -/
theorem exists_trail_of_error (page : Page) (hchain : chain.Nodup)
    (hroom : chain.length + room = setting.config.maxDepth)
    (h : (documentOfLines (loadTemplate setting room chain page.dir) page.kind setting.now
      page.lines).result = .error error) :
    ∃ opened inner root, error = root.within opened ∧ Trail setting page opened inner ∧
      (chain ++ opened).Nodup ∧ (chain ++ opened).length ≤ setting.config.maxDepth ∧
      Blames setting (chain ++ opened) inner root := by
  induction room using Nat.strongRecOn generalizing chain page error with
  | ind room ih =>
    -- an error of the page itself is at the end of the trail that goes nowhere
    have hhere (hblames : Blames setting chain page error) :
        ∃ opened inner root, error = root.within opened ∧ Trail setting page opened inner ∧
          (chain ++ opened).Nodup ∧ (chain ++ opened).length ≤ setting.config.maxDepth ∧
          Blames setting (chain ++ opened) inner root := by
      refine ⟨[], page, error, rfl, .here page, ?_⟩
      rw [List.append_nil]
      exact ⟨hchain, Nat.le.intro hroom, hblames⟩
    rcases blames_or_load_eq_error h with hblames | ⟨name, asked, hload⟩
    · exact hhere hblames
    generalize hpath : setting.config.templatePath page.dir name = path at asked
    have hloads := loadTemplate_eq_iff.mp hload
    rw [hpath] at hloads
    cases hloads with
    | cyclic opened => exact hhere (.cyclic asked (List.count_eq_one_of_mem hchain opened))
    | tooDeep fresh => exact hhere (.tooDeep asked fresh hroom)
    | unreadable fresh read there => exact hhere (.unreadable asked fresh read there)
    | @broken below file nested fresh read failed =>
      have hopen : (chain ++ [path]).Nodup := nodup_append_singleton.mpr ⟨fresh, hchain⟩
      have hbelow : (chain ++ [path]).length + below = setting.config.maxDepth := by
        rw [← hroom, List.length_append, List.length_singleton, Nat.add_assoc, Nat.add_comm 1]
      obtain ⟨opened, inner, root, rfl, htrail, hnodup, hlength, hblames⟩ :=
        ih below (Nat.lt_succ_self _) (Page.ofTemplate path file) hopen hbelow failed
      rw [← List.append_cons] at hnodup hlength hblames
      exact ⟨path :: opened, inner, root, rfl, .into asked read htrail, hnodup, hlength, hblames⟩

end

/-- **Who is to blame for an error.**  An error of a document is an error that is not wrapped, in
the templates of a trail that starts from the document.  The templates of the trail are distinct and
exist, and they are not more than the limit allows.  The innermost error is about the last of them,
or about the document if there is none: it has the place of a line at fault there, or is about a
template that is asked for there.  For a cycle this is one of the trail, and the error has the
trail and then that one; for the limit it is none of the trail, which is as long as it may be. -/
theorem parseLines_blames {setting : Setting} {kind : DocumentKind} {dir : Path}
    {lines : List Text} {error : ParseError}
    (h : (setting.parseLines kind dir lines).result = .error error) :
    ∃ opened inner root, error = root.within opened ∧
      (∀ path nested, root ≠ .inTemplate path nested) ∧
      Trail setting ⟨kind, dir, lines⟩ opened inner ∧ opened.Nodup ∧
      opened.length ≤ setting.config.maxDepth ∧ Blames setting opened inner root := by
  obtain ⟨opened, inner, root, herror, htrail, hnodup, hlength, hblames⟩ :=
    exists_trail_of_error ⟨kind, dir, lines⟩ List.nodup_nil (Nat.zero_add _) h
  exact ⟨opened, inner, root, herror, hblames.ne_inTemplate, htrail, hnodup, hlength, hblames⟩

/-- Two templates that ask for each other, the first one after a template without a fault. -/
def entangled : Setting where
  source := MemoryFiles.source ⟨[
    ("fine.template.dem", "%1".toList),
    ("t/one.template.dem", "@template ../fine\n@template two".toList),
    ("t/two.template.dem", "@template ./../t/one".toList)]⟩
  config := { maxDepth := 2 }

/-- The template that was left again is not blamed for the cycle, and the cycle comes before the
limit. -/
theorem parseLines_blames_cycle :
    (entangled.parseLines .embed "." ["# A".toList, "@template t/one".toList]).result
      = .error (.inTemplate "t/one.template.dem" (.inTemplate "t/two.template.dem"
          (.cyclic ["t/one.template.dem".toList, "t/two.template.dem".toList,
            "t/one.template.dem".toList]))) ∧
    ∃ opened inner root, ParseError.inTemplate "t/one.template.dem"
        (.inTemplate "t/two.template.dem" (.cyclic ["t/one.template.dem".toList,
          "t/two.template.dem".toList, "t/one.template.dem".toList])) = root.within opened ∧
      (∀ path nested, root ≠ .inTemplate path nested) ∧
      Trail entangled ⟨.embed, ".", ["# A".toList, "@template t/one".toList]⟩ opened inner ∧
      opened.Nodup ∧ opened.length ≤ 2 ∧ Blames entangled opened inner root := by
  refine ⟨?failed, parseLines_blames ?failed⟩
  decide +kernel

end ChatEmbed

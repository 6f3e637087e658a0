import ChatEmbed.Proofs.Blame
import Mathlib.Data.List.Dedup
import Mathlib.Data.List.Perm.Subperm

/-!
# What the limit on the depth is good for

The limit is there so that the search for templates comes to an end.  It should have no other
effect, and so it is:

* A run that does not end at the limit is the same with any higher limit (`loadTemplate_withLimit`).
* A store of files has only so many templates to open, one inside the other, before one of them
  comes again.  So a limit above the number of files is never reached, and the search would have
  come to an end without it.
-/

set_option autoImplicit false

namespace ChatEmbed

/-- The error says that the limit is reached, in some templates or in none. -/
def ParseError.IsTooDeep (error : ParseError) : Prop :=
  ∃ path limit, error.root = .tooDeep path limit

/-- The run does not end because the limit is reached. -/
def Run.Fits {α : Type} (run : Run ParseError α) : Prop :=
  ∀ error, run.result = .error error → ¬error.IsTooDeep

/-- The setting with another limit. -/
def Setting.withLimit (setting : Setting) (limit : Nat) : Setting :=
  { setting with config := { setting.config with maxDepth := limit } }

/-! ## A higher limit -/

/-- Runs in a row that do not end at the limit have parts that do not. -/
theorem congruence_fits :
    Run.Congruence fun _ run other ↦ run.Fits → other = run :=
  Run.congruence_of_parts
    (fun h error herror ↦ h error (Run.result_bind_eq_error_iff.mpr (.inl herror)))
    fun hvalue h error herror ↦
      h error (Run.result_bind_eq_error_iff.mpr (.inr ⟨_, hvalue, herror⟩))

section

variable {setting : Setting} {limit room wider : Nat}

/-- **A template that is loaded without reaching the limit** is loaded in the same way with more
room.  The induction is on the room that it had. -/
theorem loadTemplate_withLimit (hroom : room ≤ wider) (chain : List Path) (dir : Path) (name : Text)
    (h : (loadTemplate setting room chain dir name).Fits) :
    loadTemplate (setting.withLimit limit) wider chain dir name =
      loadTemplate setting room chain dir name := by
  generalize hpath : setting.config.templatePath dir name = path
  have hwide : (setting.withLimit limit).config.templatePath dir name = path := hpath
  induction room generalizing wider chain dir name path with
  | zero =>
    by_cases hchain : path ∈ chain
    · rw [loadTemplate_of_mem hpath hchain, loadTemplate_of_mem hwide hchain]
    · rw [loadTemplate_zero hpath hchain] at h
      exact absurd ⟨path, setting.config.maxDepth, rfl⟩ (h _ rfl)
  | succ below ih =>
    obtain ⟨wider, rfl⟩ := Nat.exists_eq_add_of_le' (Nat.le_of_add_left_le hroom)
    by_cases hchain : path ∈ chain
    · rw [loadTemplate_of_mem hpath hchain, loadTemplate_of_mem hwide hchain]
    cases hfile : setting.source.readLines path with
    | error failure =>
      have hsame : (setting.withLimit limit).source.readLines path = .error failure := hfile
      rw [loadTemplate_succ_of_error hpath hchain hfile,
        loadTemplate_succ_of_error hwide hchain hsame]
    | ok file =>
      have hsame : (setting.withLimit limit).source.readLines path = .ok file := hfile
      have hfits : (setting.templateDocument below chain path file).Fits := by
        intro inner hinner ⟨target, bound, hroot⟩
        refine h (.inTemplate path inner) ?_ ⟨target, bound, hroot⟩
        rw [loadTemplate_succ_of_ok hpath hchain hfile, hinner]
      have hdocument : (setting.withLimit limit).templateDocument wider chain path file =
          setting.templateDocument below chain path file :=
        congruence_fits.documentOfLines _ _
          (fun name hname ↦ ih (Nat.le_of_succ_le_succ hroom) _ _ name hname _ rfl rfl) .template
          setting.now file hfits
      rw [loadTemplate_succ_of_ok hpath hchain hfile, loadTemplate_succ_of_ok hwide hchain hsame,
        hdocument]

end

/-! ## The number of files -/

/-- The paths under which files are stored, each of them once. -/
def MemoryFiles.paths (files : MemoryFiles) : List Path := (files.entries.map Prod.fst).dedup

theorem MemoryFiles.normalize_mem_paths {files : MemoryFiles} {path : Path} {file : List Text}
    (h : files.source.readLines path = .ok file) : Path.normalize path ∈ files.paths := by
  obtain ⟨entry, hentry, hkey, -⟩ := MemoryFiles.exists_entry_of_readLines h
  rw [paths, List.mem_dedup, ← hkey]
  exact List.mem_map_of_mem hentry

/-- All templates of a trail are there. -/
theorem Trail.mem_paths {setting : Setting} {files : MemoryFiles}
    (hsource : setting.source = files.source) {page inner : Page} {opened : List Path}
    (h : Trail setting page opened inner) {path : Path} (hpath : path ∈ opened) :
    path ∈ files.paths := by
  induction h with
  | here => cases hpath
  | into asked read _ ih =>
    rcases List.mem_cons.mp hpath with rfl | hrest
    · rw [hsource] at read
      rw [← Config.normalize_eq_of_mem_targets asked]
      exact MemoryFiles.normalize_mem_paths read
    · exact ih hrest

/-- An error about the limit is at the end of a trail that is as long as the limit. -/
theorem exists_trail_of_isTooDeep {setting : Setting} {kind : DocumentKind} {dir : Path}
    {lines : List Text} {error : ParseError}
    (h : (setting.parseLines kind dir lines).result = .error error) (hdeep : error.IsTooDeep) :
    ∃ opened inner, Trail setting ⟨kind, dir, lines⟩ opened inner ∧ opened.Nodup ∧
      opened.length = setting.config.maxDepth := by
  obtain ⟨opened, inner, root, rfl, htrail, hnodup, -, hblames⟩ :=
    exists_trail_of_error ⟨kind, dir, lines⟩ List.nodup_nil (Nat.zero_add _) h
  refine ⟨opened, inner, htrail, hnodup, ?_⟩
  obtain ⟨path, limit, hroot⟩ := hdeep
  rw [ParseError.root_within] at hroot
  cases hblames with
  | tooDeep _ _ full => exact full
  | _ => cases hroot

/-- **The limit turns outcomes into errors about the limit, and does nothing else.**  A document
whose parse does not end at the limit has the same run with any higher limit, to the last event.  If
all files are in memory, and they are fewer than the limit, then no parse ends at it. -/
theorem parseLines_withLimit (setting : Setting) (kind : DocumentKind) (dir : Path)
    (lines : List Text) :
    (∀ limit, setting.config.maxDepth ≤ limit → (setting.parseLines kind dir lines).Fits →
      (setting.withLimit limit).parseLines kind dir lines = setting.parseLines kind dir lines) ∧
    ∀ files : MemoryFiles, setting.source = files.source →
      files.paths.length < setting.config.maxDepth → (setting.parseLines kind dir lines).Fits := by
  refine ⟨fun limit hlimit hfits ↦ ?_, fun files hsource hfew error herror hdeep ↦ ?_⟩
  · exact congruence_fits.documentOfLines _ _
      (fun name hname ↦ loadTemplate_withLimit hlimit [] dir name hname) kind setting.now lines
      hfits
  · obtain ⟨opened, inner, htrail, hnodup, hlength⟩ := exists_trail_of_isTooDeep herror hdeep
    have hle : opened.length ≤ files.paths.length :=
      (List.subperm_of_subset hnodup fun _ hpath ↦ htrail.mem_paths hsource hpath).length_le
    omega

/-- Two templates that ask for each other, with a limit that is just enough for both. -/
def ring : Setting where
  source := MemoryFiles.source ⟨[
    ("one.template.dem", "%1\n@template two".toList),
    ("two.template.dem", "@template ./one".toList)]⟩
  config := { maxDepth := 2 }

/-- The cycle is found before the limit counts, so it is found with any higher limit, and with three
templates allowed and only two there the limit is out of reach. -/
theorem parseLines_withLimit_ring :
    (ring.parseLines .embed "." ["@template one".toList]).result
      = .error (.inTemplate "one.template.dem" (.inTemplate "two.template.dem"
          (.cyclic ["one.template.dem".toList, "two.template.dem".toList,
            "one.template.dem".toList]))) ∧
    (ring.withLimit 50).parseLines .embed "." ["@template one".toList]
      = ring.parseLines .embed "." ["@template one".toList] ∧
    ((ring.withLimit 3).parseLines .embed "." ["@template one".toList]).Fits := by
  have hcyclic : (ring.parseLines .embed "." ["@template one".toList]).result
      = .error (.inTemplate "one.template.dem" (.inTemplate "two.template.dem"
          (.cyclic ["one.template.dem".toList, "two.template.dem".toList,
            "one.template.dem".toList]))) := by
    decide +kernel
  have hfits : (ring.parseLines .embed "." ["@template one".toList]).Fits := by
    rintro error herror ⟨path, limit, hroot⟩
    rw [hcyclic] at herror
    cases herror
    cases hroot
  refine ⟨hcyclic, ?_, ?_⟩
  · exact (parseLines_withLimit ring .embed "." _).1 50 (by decide) hfits
  · exact (parseLines_withLimit (ring.withLimit 3) .embed "." _).2 _ rfl (by decide +kernel)

end ChatEmbed

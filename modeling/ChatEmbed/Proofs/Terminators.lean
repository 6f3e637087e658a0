import ChatEmbed.Compiler
import ChatEmbed.Proofs.Missing
import Mathlib.Data.List.TakeWhile

/-!
# How lines end

A line may end with a line feed, with a carriage return and a line feed, or with the text.  What
ends it is taken off twice, once where a text is cut into lines and once more where a line is
parsed, and not by the same rule.  Together the two rules leave nothing of it.

* `Text.wholeLines` cuts a text after every line feed and takes nothing off.
  `forall₂_wholeLines` compares its lines with those of `Text.lines`.
* `Text.withReturns` puts a carriage return before every line feed.
* `Source.Chomps` are the sources whose files have the same lines once nothing is left of their
  ends, and `documentOfLines_congr_chomp` and `loadTemplate_of_chomps` say that a parse does not
  tell them apart.

Everything about the lines of a text is proved along them (`Text.line_induction`): the last line has
no line feed, and any other line is followed by one.
-/

set_option autoImplicit false

namespace ChatEmbed

namespace Text

/-! ## Lines with their ends -/

/-- The lines of a text with the line feeds that end them. -/
def wholeLines : Text → List Text
  | [] => []
  | c :: rest =>
    if c = '\n' then ['\n'] :: wholeLines rest
    else match wholeLines rest with
      | [] => [[c]]
      | line :: lines => (c :: line) :: lines

/-- The text with a carriage return before every line feed. -/
def withReturns : Text → Text
  | [] => []
  | c :: rest => if c = '\n' then '\r' :: '\n' :: withReturns rest else c :: withReturns rest

/-- **Induction along the lines of a text.** -/
theorem line_induction {motive : Text → Prop} (last : ∀ line, '\n' ∉ line → motive line)
    (more : ∀ line rest, '\n' ∉ line → motive rest → motive (line ++ '\n' :: rest)) (s : Text) :
    motive s := by
  -- the part of the line that has been passed is kept in view
  have hfrom : ∀ line, '\n' ∉ line → motive (line ++ s) := by
    induction s with
    | nil =>
      intro line hline
      rw [List.append_nil]
      exact last line hline
    | cons c rest ih =>
      intro line hline
      by_cases hc : c = '\n'
      · subst hc
        exact more line rest hline (ih [] (by simp))
      · have hlonger : '\n' ∉ line ++ [c] := by simp [hline, Ne.symm hc]
        simpa using ih (line ++ [c]) hlonger
  exact hfrom [] (by simp)

section

variable {line : Text} (h : '\n' ∉ line)
include h

theorem lines_of_not_mem : lines line = if line = [] then [] else [line] := by
  rw [lines, pieces_of_not_mem h, linesOfPieces]
  simp

theorem lines_append_cons (rest : Text) :
    lines (line ++ '\n' :: rest) = dropReturn line :: lines rest := by
  rw [lines, pieces_append_cons h, lines]
  cases hpieces : pieces '\n' rest with
  | nil => exact absurd hpieces (pieces_ne_nil '\n' rest)
  | cons => rfl

theorem wholeLines_of_not_mem : wholeLines line = if line = [] then [] else [line] := by
  induction line with
  | nil => rfl
  | cons c line ih =>
    rw [List.mem_cons, not_or] at h
    rw [wholeLines, if_neg (Ne.symm h.1), ih h.2]
    cases line <;> simp

theorem wholeLines_append_cons (rest : Text) :
    wholeLines (line ++ '\n' :: rest) = (line ++ ['\n']) :: wholeLines rest := by
  induction line with
  | nil => simp [wholeLines]
  | cons c line ih =>
    rw [List.mem_cons, not_or] at h
    rw [List.cons_append, wholeLines, if_neg (Ne.symm h.1), ih h.2]
    rfl

theorem withReturns_of_not_mem : withReturns line = line := by
  induction line with
  | nil => rfl
  | cons c line ih =>
    rw [List.mem_cons, not_or] at h
    rw [withReturns, if_neg (Ne.symm h.1), ih h.2]

theorem withReturns_append_cons (rest : Text) :
    withReturns (line ++ '\n' :: rest) = (line ++ ['\r']) ++ '\n' :: withReturns rest := by
  induction line with
  | nil => simp [withReturns]
  | cons c line ih =>
    rw [List.mem_cons, not_or] at h
    rw [List.cons_append, withReturns, if_neg (Ne.symm h.1), ih h.2]
    rfl

end

/-- Nothing is taken off a text by cutting it into whole lines. -/
theorem flatten_wholeLines (s : Text) : (wholeLines s).flatten = s := by
  induction s using line_induction with
  | last line h =>
    rw [wholeLines_of_not_mem h]
    split <;> simp [*]
  | more line rest h ih => simp [wholeLines_append_cons h, ih]

/-! ## Taking ends off -/

theorem isTerminator_iff {c : Char} : isTerminator c = true ↔ c = '\n' ∨ c = '\r' := by
  simp [isTerminator]

/-- Terminators at the end of a line make no difference to what is left of it. -/
theorem chomp_append {ending : Text} (h : ∀ c ∈ ending, isTerminator c = true) (s : Text) :
    chomp (s ++ ending) = chomp s := by
  rw [chomp, chomp, List.reverse_append, List.dropWhile_append_of_pos (by simpa using h)]

/-- A line is what is left of it and terminators. -/
theorem exists_eq_chomp_append (s : Text) :
    ∃ ending, (∀ c ∈ ending, isTerminator c = true) ∧ s = chomp s ++ ending := by
  refine ⟨(s.reverse.takeWhile isTerminator).reverse, fun c hc => ?_, ?_⟩
  · exact List.mem_takeWhile_imp (List.mem_reverse.mp hc)
  · rw [chomp, ← List.reverse_append, List.takeWhile_append_dropWhile, List.reverse_reverse]

@[simp] theorem chomp_chomp (s : Text) : chomp (chomp s) = chomp s := by
  obtain ⟨ending, hending, hs⟩ := exists_eq_chomp_append s
  conv => rhs; rw [hs, chomp_append hending]

/-- The carriage return before a line feed is a terminator like any other. -/
theorem exists_eq_dropReturn_append (s : Text) :
    ∃ ending, (∀ c ∈ ending, isTerminator c = true) ∧ s = dropReturn s ++ ending := by
  rw [dropReturn]
  cases hdrop : dropEnd? ['\r'] s with
  | none => exact ⟨[], by simp, by simp⟩
  | some r => exact ⟨['\r'], by simp [isTerminator], dropEnd?_eq_some_iff.mp hdrop⟩

/-- **Whole lines are lines with terminators**, at most a carriage return and a line feed each. -/
theorem forall₂_wholeLines (s : Text) :
    List.Forall₂ (fun line whole => ∃ ending, (∀ c ∈ ending, isTerminator c = true) ∧
      whole = line ++ ending) (lines s) (wholeLines s) := by
  induction s using line_induction with
  | last line h =>
    rw [lines_of_not_mem h, wholeLines_of_not_mem h]
    split
    · exact .nil
    · exact .cons ⟨[], by simp, by simp⟩ .nil
  | more line rest h ih =>
    rw [lines_append_cons h, wholeLines_append_cons h]
    obtain ⟨ending, hending, hline⟩ := exists_eq_dropReturn_append line
    refine .cons ⟨ending ++ ['\n'], ?_, ?_⟩ ih
    · exact List.forall_mem_append.mpr ⟨hending, by simp [isTerminator]⟩
    · rw [← List.append_assoc, ← hline]

/-- Whether lines are cut with their ends or without makes no difference to what is left of
them. -/
theorem map_chomp_wholeLines (s : Text) : (wholeLines s).map chomp = (lines s).map chomp := by
  rw [← List.forall₂_eq_eq_eq, List.forall₂_map_left_iff, List.forall₂_map_right_iff]
  refine (forall₂_wholeLines s).flip.imp ?_
  rintro whole line ⟨ending, hending, rfl⟩
  exact chomp_append hending line

theorem chomp_dropReturn (s : Text) : chomp (dropReturn s) = chomp s := by
  obtain ⟨ending, hending, hs⟩ := exists_eq_dropReturn_append s
  conv => rhs; rw [hs, chomp_append hending]

/-- Nor does it make a difference whether there are carriage returns before the line feeds. -/
theorem map_chomp_lines_withReturns (s : Text) :
    (lines (withReturns s)).map chomp = (lines s).map chomp := by
  induction s using line_induction with
  | last line h => rw [withReturns_of_not_mem h]
  | more line rest h ih =>
    have hreturn : '\n' ∉ line ++ ['\r'] := by simp [h]
    have hchomp : chomp (line ++ ['\r']) = chomp line := chomp_append (by simp [isTerminator]) line
    rw [withReturns_append_cons h, lines_append_cons hreturn, lines_append_cons h, List.map_cons,
      List.map_cons, chomp_dropReturn, chomp_dropReturn, hchomp, ih]

/-- The text, with a carriage return before every line feed if so chosen. -/
def withReturnsIf (chosen : Bool) (s : Text) : Text := if chosen then withReturns s else s

theorem map_chomp_lines_withReturnsIf (chosen : Bool) (s : Text) :
    (lines (withReturnsIf chosen s)).map chomp = (lines s).map chomp := by
  cases chosen with
  | false => rfl
  | true => exact map_chomp_lines_withReturns s

end Text

/-! ## Documents -/

section

variable {load : Text → Run ParseError (Option Template)} {kind : DocumentKind} {now : Text}

theorem lineEdits_congr_chomp {lines others : List Text}
    (h : lines.map Text.chomp = others.map Text.chomp) (number offset : Nat) :
    lineEdits load kind now number offset lines = lineEdits load kind now number offset others := by
  induction lines generalizing others number offset with
  | nil => rw [List.map_eq_nil_iff.mp h.symm]
  | cons line rest ih =>
    obtain ⟨other, others, rfl, hline, hrest⟩ := List.map_eq_cons_iff.mp h.symm
    rw [lineEdits, lineEdits, hline]
    simp only [ih hrest.symm]

/-- **How lines end makes no difference to a document**, nor to what happens on the way. -/
theorem documentOfLines_congr_chomp {lines others : List Text}
    (h : lines.map Text.chomp = others.map Text.chomp) :
    documentOfLines load kind now lines = documentOfLines load kind now others := by
  rw [documentOfLines, documentOfLines, lineEdits_congr_chomp h]

end

/-! ## Files -/

/-- The files of the two sources have the same lines, but for how the lines end.  What cannot be
read from the one cannot be read from the other, for the same reason. -/
def Source.Chomps (source other : Source) : Prop :=
  ∀ path, (source.readLines path).map (List.map Text.chomp) =
    (other.readLines path).map (List.map Text.chomp)

/-- **How the lines of files end makes no difference to a template.**  The induction is on the room
that is left. -/
theorem loadTemplate_of_chomps {setting : Setting} {source : Source}
    (h : setting.source.Chomps source) (room : Nat) (chain : List Path) (dir : Path) (name : Text) :
    loadTemplate (setting.withSource source) room chain dir name =
      loadTemplate setting room chain dir name := by
  generalize hpath : setting.config.templatePath dir name = path
  have hother : (setting.withSource source).config.templatePath dir name = path := hpath
  induction room generalizing chain dir name path with
  | zero =>
    by_cases hchain : path ∈ chain
    · rw [loadTemplate_of_mem hpath hchain, loadTemplate_of_mem hother hchain]
    · rw [loadTemplate_zero hpath hchain, loadTemplate_zero hother hchain]
      rfl
  | succ below ih =>
    by_cases hchain : path ∈ chain
    · rw [loadTemplate_of_mem hpath hchain, loadTemplate_of_mem hother hchain]
    have hlines := h path
    have hsource : (setting.withSource source).source.readLines path = source.readLines path := rfl
    rcases hfile : setting.source.readLines path with failure | file <;>
      rcases hsame : source.readLines path with failure' | file' <;>
      rw [hfile, hsame] at hlines <;> rw [hsame] at hsource
    · obtain rfl : failure = failure' := Except.error.inj hlines
      rw [loadTemplate_succ_of_error hpath hchain hfile,
        loadTemplate_succ_of_error hother hchain hsource]
    · cases hlines
    · cases hlines
    · have hchomp : file'.map Text.chomp = file.map Text.chomp := (Except.ok.inj hlines).symm
      have hload :
          loadTemplate (setting.withSource source) below (chain ++ [path]) (Setting.dirOf path) =
            loadTemplate setting below (chain ++ [path]) (Setting.dirOf path) :=
        funext fun name => ih _ _ name _ rfl rfl
      have hdocument : (setting.withSource source).templateDocument below chain path file' =
          setting.templateDocument below chain path file := by
        rw [Setting.templateDocument, Setting.templateDocument, hload]
        exact documentOfLines_congr_chomp hchomp
      rw [loadTemplate_succ_of_ok hpath hchain hfile, loadTemplate_succ_of_ok hother hchain hsource,
        hdocument]

/-- **How lines end makes no difference to a parse**, neither in the document nor in the files. -/
theorem parseLines_of_chomps {setting : Setting} {source : Source}
    (h : setting.source.Chomps source) (kind : DocumentKind) (dir : Path) {lines others : List Text}
    (hlines : lines.map Text.chomp = others.map Text.chomp) :
    (setting.withSource source).parseLines kind dir lines =
      setting.parseLines kind dir others := by
  have hload : (setting.withSource source).template dir = setting.template dir :=
    funext fun name => loadTemplate_of_chomps h _ [] dir name
  rw [Setting.parseLines, Setting.parseLines, hload]
  exact documentOfLines_congr_chomp hlines

namespace MemoryFiles

/-- The files, with a carriage return before every line feed of those that are chosen. -/
def withReturns (chosen : Path → Bool) (files : MemoryFiles) : MemoryFiles :=
  ⟨files.entries.map fun entry => (entry.1, Text.withReturnsIf (chosen entry.1) entry.2)⟩

theorem get?_withReturns (chosen : Path → Bool) (files : MemoryFiles) (path : Path) :
    (files.withReturns chosen).get? path =
      (files.get? path).map (Text.withReturnsIf (chosen (Path.normalize path))) := by
  obtain ⟨entries⟩ := files
  simp only [get?, withReturns]
  induction entries with
  | nil => rfl
  | cons entry rest ih =>
    rw [List.map_cons, List.lookup_cons, List.lookup_cons, ih]
    cases hkey : Path.normalize path == entry.1 with
    | true => rw [eq_of_beq hkey]; rfl
    | false => rfl

theorem chomps_withReturns (chosen : Path → Bool) (files : MemoryFiles) :
    files.source.Chomps (files.withReturns chosen).source := by
  intro path
  rw [Source.readLines, Source.readLines, source, source, get?_withReturns]
  cases files.get? path with
  | none => rfl
  | some content =>
    exact congrArg Except.ok (Text.map_chomp_lines_withReturnsIf _ content).symm

end MemoryFiles

/-- **How lines end does not matter.**  Let carriage returns be put before the line feeds of a text,
or not, and before those of any of the files.  Then the text is parsed as before, and so are its
lines if they come with their line feeds: the same files are asked for, and there is the same
document, or the same error at the same place.  So the text is compiled as before.  It may have had
other carriage returns already, and its last line need not be ended. -/
theorem parseText_withReturns (setting : Setting) (files : MemoryFiles) (inText : Bool)
    (inFile : Path → Bool) (dir : Path) (text : Text) :
    (∀ kind,
      (setting.withSource (files.withReturns inFile).source).parseText kind dir
          (Text.withReturnsIf inText text)
        = (setting.withSource files.source).parseText kind dir text ∧
      (setting.withSource (files.withReturns inFile).source).parseLines kind dir
          (Text.wholeLines (Text.withReturnsIf inText text))
        = (setting.withSource files.source).parseText kind dir text) ∧
    (setting.withSource (files.withReturns inFile).source).compileText dir
        (Text.withReturnsIf inText text)
      = (setting.withSource files.source).compileText dir text := by
  have hlines := Text.map_chomp_lines_withReturnsIf inText text
  have hwhole := Text.map_chomp_wholeLines (Text.withReturnsIf inText text)
  have hfiles := files.chomps_withReturns inFile
  have hparse (kind : DocumentKind) {lines : List Text}
      (h : lines.map Text.chomp = (Text.lines text).map Text.chomp) :
      (setting.withSource (files.withReturns inFile).source).parseLines kind dir lines =
        (setting.withSource files.source).parseLines kind dir (Text.lines text) :=
    @parseLines_of_chomps (setting.withSource files.source) _ hfiles kind dir _ _ h
  refine ⟨fun kind => ⟨hparse kind hlines, hparse kind (hwhole.trans hlines)⟩, ?_⟩
  rw [Setting.compileText, Setting.compileText, Setting.parseText, Setting.parseText,
    hparse .embed hlines]

end ChatEmbed

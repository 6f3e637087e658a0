import ChatEmbed.Proofs.Content
import ChatEmbed.Proofs.Neutral
import ChatEmbed.Proofs.Outcome

/-!
# What a parsed document can lack

Lines that are accepted still need not make an embed that has a JSON form.  Three modules have a say
in this, each with its own idea of what counts as nothing: a line with nothing after its mark, text
that was never gathered, and the value of a field without its marker.  This file brings them
together and says of the lines themselves what is missing.

* `Text.Trimmed` is a text with visible ends.  What is left of such a text without a mark at its
  start is visible, so no title of a line is blank (`Line.visible_classify`).
* `Receives` says that some line adds text to a part of the document, and
  `isBlank_gathered_iff` that otherwise the part is blank.
* `Field.isBlank_value_iff` lists the texts of a field that say nothing.
* `LacksContent` is what lines can lack, and `compileText_lacking` says that this is what compiling
  fails for.
-/

set_option autoImplicit false

namespace ChatEmbed

/-! ## Texts with visible ends -/

namespace Text

/-- The text does not begin or end with a blank. -/
structure Trimmed (s : Text) : Prop where
  first : ∀ c, s.head? = some c → isBlank c = false
  last : ∀ c, s.getLast? = some c → isBlank c = false

theorem isBlank_head?_trimStart {s : Text} {c : Char} (h : (trimStart s).head? = some c) :
    isBlank c = false := by
  have hhead := List.head?_dropWhile_not isBlank s
  rw [← trimStart, h] at hhead
  simpa using hhead

theorem trimEnd_prefix (s : Text) : trimEnd s <+: s := by
  rw [trimEnd, ← List.reverse_suffix, List.reverse_reverse]
  exact List.dropWhile_suffix isBlank

theorem trimmed_trim (s : Text) : Trimmed (trim s) where
  first c h := by
    obtain ⟨rest, hrest⟩ := trimEnd_prefix (trimStart s)
    rw [← trim] at hrest
    have hhead : (trimStart s).head? = some c := by
      rw [← hrest, List.head?_append, h]
      rfl
    exact isBlank_head?_trimStart hhead
  last c h := by
    rw [trim, trimEnd, List.getLast?_reverse] at h
    exact isBlank_head?_trimStart h

theorem not_isBlank_of_mem {s : Text} {c : Char} (h : c ∈ s) (hc : isBlank c = false) :
    ¬IsBlank s := by
  intro hblank
  rw [isBlank_iff_forall.mp hblank c h] at hc
  cases hc

/-- A text with visible ends is blank only if it is empty. -/
theorem Trimmed.isBlank_iff {s : Text} (h : Trimmed s) : IsBlank s ↔ s = [] := by
  constructor
  · intro hblank
    cases s with
    | nil => rfl
    | cons c rest => exact absurd hblank (not_isBlank_of_mem List.mem_cons_self (h.first c rfl))
  · rintro rfl
    rfl

/-- What follows a blank in a text with visible ends is visible. -/
theorem Trimmed.visible_of_append {start rest : Text} {c : Char}
    (h : Trimmed (start ++ c :: rest)) (hc : isBlank c = true) : ¬IsBlank rest := by
  -- The last character would be a blank, be it one of the rest or the one before it.
  intro hrest
  have hall : ∀ d ∈ c :: rest, isBlank d = true :=
    List.forall_mem_cons.mpr ⟨hc, isBlank_iff_forall.mp hrest⟩
  have hlast : (start ++ c :: rest).getLast? =
      some ((c :: rest).getLast (List.cons_ne_nil c rest)) := by
    rw [List.getLast?_append, List.getLast?_eq_some_getLast (List.cons_ne_nil c rest)]
    rfl
  exact not_isBlank_of_mem (List.getLast_mem _) (h.last _ hlast) (isBlank_iff_forall.mpr hall)

theorem isBlank_append_iff {s t : Text} : IsBlank (s ++ t) ↔ IsBlank s ∧ IsBlank t := by
  simp only [isBlank_iff_forall, List.forall_mem_append]

theorem isBlank_flatMap_iff {α : Type} {l : List α} {f : α → Text} :
    IsBlank (l.flatMap f) ↔ ∀ a ∈ l, IsBlank (f a) := by
  induction l with
  | nil => exact iff_of_true rfl (List.forall_mem_nil _)
  | cons a rest ih => rw [List.flatMap_cons, isBlank_append_iff, ih, List.forall_mem_cons]

end Text

/-! ## What lines carry -/

namespace Line

/-- What the line carries into a document can be seen, unless it is an empty line of text. -/
def Visible : Line → Prop
  | .heading title | .subheading title => ¬Text.IsBlank title
  | .text content => content ≠ [] → ¬Text.IsBlank content
  | _ => True

/-- **No title is blank, and no text but the empty one.**  The mark of a title is followed by a
blank, and with nothing to see after it the line would have ended before that blank. -/
theorem visible_classify (raw : Text) : (classify raw).Visible := by
  have htrimmed := Text.trimmed_trim (Comment.strip raw).1
  rw [classify]
  generalize Text.trim (Comment.strip raw).1 = s at htrimmed
  rw [ofContent.eq_def]
  split
  case h_1 title hdrop =>
    obtain rfl := Text.dropStart?_eq_some_iff.mp hdrop
    have hmarked : Text.Trimmed ("#".toList ++ ' ' :: title) := htrimmed
    exact hmarked.visible_of_append (by decide)
  case h_2 title _ hdrop =>
    obtain rfl := Text.dropStart?_eq_some_iff.mp hdrop
    have hmarked : Text.Trimmed ("##".toList ++ ' ' :: title) := htrimmed
    exact hmarked.visible_of_append (by decide)
  case h_6 => exact fun hne hblank ↦ hne (htrimmed.isBlank_iff.mp hblank)
  all_goals exact True.intro

end Line

/-! ## Parts that receive text -/

/-- Some line is text for the part. -/
def Receives (part : Target) (lines : List Line) : Prop :=
  ∃ i content, lines[i]? = some (.text content) ∧ content ≠ [] ∧ owner (lines.take i) = part

/-- What a line adds to a part is visible if it adds anything. -/
theorem isBlank_addition_iff {line : Line} (h : line.Visible) (part : Target)
    (before : List Line) :
    Text.IsBlank (addition part before line) ↔
      ¬∃ content, line = .text content ∧ content ≠ [] ∧ owner before = part := by
  rw [addition.eq_def]
  split
  case h_1 c rest =>
    have hvisible : ¬Text.IsBlank (c :: rest) := h (List.cons_ne_nil c rest)
    split
    case isTrue howner =>
      have hjoined : ¬Text.IsBlank ([joiner before] ++ c :: rest) := fun hblank ↦
        hvisible (Text.isBlank_append_iff.mp hblank).2
      exact iff_of_false hjoined (not_not_intro ⟨_, rfl, List.cons_ne_nil c rest, howner⟩)
    case isFalse howner =>
      refine iff_of_true rfl ?_
      rintro ⟨_, -, -, hpart⟩
      exact howner hpart
  case h_2 hother =>
    refine iff_of_true rfl ?_
    rintro ⟨content, rfl, hne, -⟩
    obtain ⟨c, rest, rfl⟩ := List.exists_cons_of_ne_nil hne
    exact hother c rest rfl

/-- **A part is blank if it receives nothing**, and only then. -/
theorem isBlank_gathered_iff {lines : List Line} (h : ∀ line ∈ lines, line.Visible)
    (part : Target) : Text.IsBlank (gathered part lines) ↔ ¬Receives part lines := by
  rw [gathered, Text.isBlank_flatMap_iff]
  constructor
  · rintro hblank ⟨i, content, hi, hne, howner⟩
    have hadded := hblank (.text content, i) (List.mem_zipIdx_iff_getElem?.mpr hi)
    exact (isBlank_addition_iff (h _ (List.mem_of_getElem? hi)) ..).mp hadded
      ⟨content, rfl, hne, howner⟩
  · rintro hnone ⟨line, i⟩ hmem
    have hi := List.mem_zipIdx_iff_getElem?.mp hmem
    refine (isBlank_addition_iff (h _ (List.mem_of_getElem? hi)) ..).mpr ?_
    rintro ⟨content, rfl, hne, howner⟩
    exact hnone ⟨i, content, hi, hne, howner⟩

/-- **The texts of a field that say nothing**: none at all, and the marker alone.  With a backslash
the marker is itself something to see. -/
theorem Field.isBlank_value_iff {field : Field} :
    Text.IsBlank field.value ↔
      Text.IsBlank field.text ∨ Text.trim field.text = [marker] := by
  have htrimmed := Text.trimmed_trim field.text
  change Text.IsBlank field.value ↔ Text.trim field.text = [] ∨ Text.trim field.text = [marker]
  rw [value]
  generalize Text.trim field.text = text at htrimmed
  split
  case h_1 escaped _ hescaped =>
    obtain rfl := Text.dropEnd?_eq_some_iff.mp hescaped
    refine iff_of_false (fun hblank ↦ ?_) ?_
    · exact absurd (Text.isBlank_append_iff.mp hblank).2 (by decide)
    · rintro (h | h) <;> simpa using congrArg List.length h
  case h_2 content _ hcontent =>
    obtain rfl := Text.dropEnd?_eq_some_iff.mp hcontent
    cases content with
    | nil => exact iff_of_true rfl (.inr rfl)
    | cons c rest =>
      -- What stands before the marker begins with something visible, so there is no more to trim.
      have hc : isBlank c = false := htrimmed.first c rfl
      have htrim : Text.trimEnd (c :: rest) = Text.trim (c :: rest) := by
        rw [Text.trim, Text.trimStart_eq_self hc]
      rw [htrim, Text.isBlank_trim_iff]
      exact iff_of_false (Text.not_isBlank_of_mem List.mem_cons_self hc) (by simp)
  case h_3 hplain =>
    rw [htrimmed.isBlank_iff]
    refine ⟨.inl, ?_⟩
    rintro (hnil | rfl)
    · exact hnil
    · cases hplain

/-! ## What is missing -/

/-- The field at the index has no text, or none but its marker. -/
def Bare (lines : List Line) (index : Nat) : Prop :=
  ¬Receives (.field index) lines ∨ Text.trim (gathered (.field index) lines) = [Field.marker]

/-- What lines can lack.  Of several faults it is the first in the order of the embed, and no title
of a field is among them. -/
inductive LacksContent (lines : List Line) : ContentError → Prop
  | title (untitled : ∀ title, .heading title ∉ lines) : LacksContent lines (.missingTitle .embed)
  | text {title : Text} (titled : .heading title ∈ lines) (unread : ¬Receives .body lines) :
      LacksContent lines (.missingText .embed)
  | fieldText {title : Text} (titled : .heading title ∈ lines) (received : Receives .body lines)
      {index : Nat} {fieldTitle : Text}
      (field : (lines.filterMap Line.fieldTitle?)[index]? = some fieldTitle)
      (bare : Bare lines index) (first : ∀ earlier < index, ¬Bare lines earlier) :
      LacksContent lines (.missingText (.field fieldTitle))

section

variable {lines : List Line} {embed : Embed} (visible : ∀ line ∈ lines, line.Visible)
  (gathers : Gathers lines embed)

include gathers in
theorem Gathers.title_eq_nil (untitled : ∀ title, .heading title ∉ lines) : embed.title = [] := by
  have hnone : lines.filterMap Line.title? = [] := by
    refine List.filterMap_eq_nil_iff.mpr fun line hline ↦ ?_
    cases line with
    | heading title => exact absurd hline (untitled title)
    | _ => rfl
  rw [gathers.title, hnone]
  rfl

include visible gathers in
theorem Gathers.visible_title {title : Text} (titled : .heading title ∈ lines) :
    ¬Text.IsBlank embed.title := by
  have hmem : title ∈ lines.filterMap Line.title? := List.mem_filterMap.mpr ⟨_, titled, rfl⟩
  rw [gathers.title, List.getLast?_eq_some_getLast (List.ne_nil_of_mem hmem), Option.getD_some]
  obtain ⟨line, hline, htitle⟩ :=
    List.mem_filterMap.mp (List.getLast_mem (List.ne_nil_of_mem hmem))
  have hvisible := visible line hline
  cases line with
  | heading last => exact Option.some.inj htitle ▸ hvisible
  | _ => cases htitle

include visible gathers in
theorem Gathers.isBlank_text_iff : Text.IsBlank embed.text ↔ ¬Receives .body lines := by
  rw [gathers.text, isBlank_gathered_iff visible]

include visible gathers in
theorem Gathers.visible_embed {title : Text} (titled : .heading title ∈ lines)
    (received : Receives .body lines) :
    ∀ requirement ∈ Part.embed.required embed.title (Text.trim embed.text),
      ¬Text.IsBlank requirement.1 := by
  have htext : ¬Text.IsBlank (Text.trim embed.text) := by
    rw [Text.isBlank_trim_iff, gathers.isBlank_text_iff visible]
    exact not_not_intro received
  exact List.forall_mem_cons.mpr
    ⟨gathers.visible_title visible titled, List.forall_mem_singleton.mpr htext⟩

include visible in
theorem visible_of_fieldTitle? {title : Text} (h : title ∈ lines.filterMap Line.fieldTitle?) :
    ¬Text.IsBlank title := by
  obtain ⟨line, hline, hopens⟩ := List.mem_filterMap.mp h
  have hvisible := visible line hline
  cases line with
  | subheading opened => exact Option.some.inj hopens ▸ hvisible
  | _ => cases hopens

include visible gathers in
/-- A field has a title to be seen, and a value too unless it is bare. -/
theorem Gathers.visible_field {index : Nat} {field : Field}
    (h : embed.fields[index]? = some field) :
    ¬Text.IsBlank field.title ∧ (Text.IsBlank field.value ↔ Bare lines index) := by
  rw [gathers.fields, List.getElem?_mapIdx, Option.map_eq_some_iff] at h
  obtain ⟨title, htitle, rfl⟩ := h
  constructor
  · exact visible_of_fieldTitle? visible (List.mem_of_getElem? htitle)
  · rw [Field.isBlank_value_iff, isBlank_gathered_iff visible, Bare]

include visible gathers in
/-- Nothing is blank in fields that are not bare. -/
theorem Gathers.visible_fields {fields : List Field}
    (h : ∀ field ∈ fields, ∃ index, embed.fields[index]? = some field ∧ ¬Bare lines index) :
    ∀ requirement ∈ fields.flatMap fun field ↦
      (Part.field field.title).required field.title field.value, ¬Text.IsBlank requirement.1 := by
  intro requirement hmem
  obtain ⟨field, hfield, hrequirement⟩ := List.mem_flatMap.mp hmem
  obtain ⟨index, hindex, hbare⟩ := h field hfield
  obtain ⟨htitle, hvalue⟩ := gathers.visible_field visible hindex
  have hall : ∀ requirement ∈ (Part.field field.title).required field.title field.value,
      ¬Text.IsBlank requirement.1 :=
    List.forall_mem_cons.mpr ⟨htitle, List.forall_mem_singleton.mpr (mt hvalue.mp hbare)⟩
  exact hall requirement hrequirement

include visible gathers in
/-- **What lines lack is what is blank first** in the embed that they make. -/
theorem LacksContent.firstBlank {error : ContentError} (h : LacksContent lines error) :
    FirstBlank (embed.required id) error := by
  cases h with
  | title untitled =>
    refine ⟨[], embed.title, _, rfl, List.forall_mem_nil _, ?_⟩
    rw [gathers.title_eq_nil untitled]
    rfl
  | text titled unread =>
    refine ⟨[(embed.title, _)], Text.trim embed.text, _, rfl, ?_, ?_⟩
    · exact List.forall_mem_singleton.mpr (gathers.visible_title visible titled)
    · rw [Text.isBlank_trim_iff, gathers.isBlank_text_iff visible]
      exact unread
  | @fieldText title titled received index fieldTitle opened bare first =>
    have hfield : embed.fields[index]? =
        some { title := fieldTitle, text := gathered (.field index) lines } := by
      rw [gathers.fields, List.getElem?_mapIdx, opened]
      rfl
    obtain ⟨hindex, hget⟩ := List.getElem?_eq_some_iff.mp hfield
    obtain ⟨htitle, hvalue⟩ := gathers.visible_field visible hfield
    have hearlier : ∀ field ∈ embed.fields.take index,
        ∃ earlier, embed.fields[earlier]? = some field ∧ ¬Bare lines earlier := by
      intro field hmem
      obtain ⟨earlier, hget⟩ := List.getElem?_of_mem hmem
      rw [List.getElem?_take] at hget
      split at hget
      · next hlt => exact ⟨earlier, hget, first earlier hlt⟩
      · cases hget
    -- The embed, the earlier fields and the title of this field come before its value.
    rw [Embed.required, ← List.take_append_drop index embed.fields,
      List.drop_eq_getElem_cons hindex, hget, List.flatMap_append, List.flatMap_cons]
    refine FirstBlank.append_left ?_ (gathers.visible_embed visible titled received)
    refine FirstBlank.append_left ?_ (gathers.visible_fields visible hearlier)
    exact FirstBlank.append_right ⟨[(fieldTitle, _)], _, [], rfl,
      List.forall_mem_singleton.mpr htitle, hvalue.mpr bare⟩ _

include visible gathers in
/-- **Lines that lack nothing** make an embed with nothing blank in it. -/
theorem Gathers.visible_required (h : ∀ error, ¬LacksContent lines error) :
    ∀ requirement ∈ embed.required id, ¬Text.IsBlank requirement.1 := by
  obtain ⟨title, titled⟩ : ∃ title, .heading title ∈ lines := by
    by_contra hnone
    exact h _ (.title (not_exists.mp hnone))
  have received : Receives .body lines := by
    by_contra hnone
    exact h _ (.text titled hnone)
  -- Of the bare fields the first would be lacking.
  have hbare (index : Nat) : index < embed.fields.length → ¬Bare lines index := by
    induction index using Nat.strong_induction_on with
    | h index ih =>
      intro hindex bare
      rw [gathers.fields, List.length_mapIdx] at hindex ih
      exact h _ (.fieldText titled received (List.getElem?_eq_getElem hindex) bare
        fun earlier hlt ↦ ih earlier hlt (hlt.trans hindex))
  refine List.forall_mem_append.mpr ⟨gathers.visible_embed visible titled received, ?_⟩
  refine gathers.visible_fields visible fun field hfield ↦ ?_
  obtain ⟨index, hget⟩ := List.getElem?_of_mem hfield
  exact ⟨index, hget, hbare index (List.getElem?_eq_some_iff.mp hget).1⟩

include visible gathers in
/-- **An embed has no JSON form for what the lines lack**, and for no other reason. -/
theorem Gathers.payload_eq_error_iff {error : ContentError} :
    embed.payload = .error error ↔ LacksContent lines error := by
  rw [Embed.payload_eq_demand]
  constructor
  · intro hfails
    by_cases hlacks : ∃ lack, LacksContent lines lack
    · obtain ⟨lack, hlack⟩ := hlacks
      rw [(hlack.firstBlank visible gathers).demand_eq] at hfails
      cases hfails
      exact hlack
    · rw [demand_eq_ok (gathers.visible_required visible (not_exists.mp hlacks))] at hfails
      cases hfails
  · intro hlack
    rw [(hlack.firstBlank visible gathers).demand_eq]
    rfl

end

/-- Only fields with a title to be seen are lacking. -/
theorem LacksContent.visible_fieldTitle {lines : List Line}
    (visible : ∀ line ∈ lines, line.Visible) {title : Text}
    (h : LacksContent lines (.missingText (.field title))) : ¬Text.IsBlank title := by
  cases h with
  | fieldText _ _ opened => exact visible_of_fieldTitle? visible (List.mem_of_getElem? opened)

/-- **When a document that was parsed fails to compile.**  The reason is what its lines lack, and
lines that lack nothing make a value.  A field is never without a title. -/
theorem Setting.compileText_lacking {setting : Setting} {dir : Path} {text : Text}
    {document : Blueprint} (h : (setting.parseText .embed dir text).result = .ok document) :
    (∀ error, (setting.compileText dir text).result = .error error ↔
        ∃ lack, LacksContent ((Text.lines text).map Line.ofSource) lack ∧ error = .content lack) ∧
      ((∃ value, (setting.compileText dir text).result = .ok value) ↔
        ∀ lack, ¬LacksContent ((Text.lines text).map Line.ofSource) lack) ∧
      ∀ title,
        (setting.compileText dir text).result ≠ .error (.content (.missingTitle (.field title))) ∧
        ((setting.compileText dir text).result = .error (.content (.missingText (.field title))) →
          ¬Text.IsBlank title) := by
  have hvisible : ∀ line ∈ (Text.lines text).map Line.ofSource, line.Visible := by
    rw [List.forall_mem_map]
    exact fun line _ ↦ Line.visible_classify (Text.chomp line)
  have hgathers : Gathers ((Text.lines text).map Line.ofSource) document.embed :=
    gathers_of_parseLines h
  have hcompile : (setting.compileText dir text).result =
      document.embed.payload.mapError .content :=
    Setting.result_finish_of_ok h fun document ↦ document.embed.payload
  generalize (Text.lines text).map Line.ofSource = lines at hvisible hgathers
  have hpayload (lack : ContentError) :
      document.embed.payload = .error lack ↔ LacksContent lines lack :=
    hgathers.payload_eq_error_iff hvisible
  have hfails (error : CompileError) : (setting.compileText dir text).result = .error error ↔
      ∃ lack, LacksContent lines lack ∧ error = .content lack := by
    simp only [hcompile, ← hpayload]
    cases document.embed.payload <;> simp [Except.mapError, eq_comm]
  refine ⟨hfails, ?_, fun title ↦ ⟨fun hmissing ↦ ?_, fun hmissing ↦ ?_⟩⟩
  · simp only [hcompile, ← hpayload]
    cases document.embed.payload <;> simp [Except.mapError]
  · obtain ⟨lack, hlack, heq⟩ := (hfails _).mp hmissing
    cases heq
    cases hlack
  · obtain ⟨lack, hlack, heq⟩ := (hfails _).mp hmissing
    cases heq
    exact hlack.visible_fieldTitle hvisible

/-- The first line of this text is no title but text that goes nowhere, and of its fields only the
first says anything. -/
def markedOnly : Text :=
  "# : untold\n# T\nbody\n## F\nseen \\&\n## G\n & : aside\n## H"

/-- The field with nothing but a marker comes before the one with nothing at all. -/
theorem Setting.compileText_lacking_markedOnly :
    (noFiles.compileText "." markedOnly).result
        = .error (.content (.missingText (.field "G".toList))) ∧
      (noFiles.compileText "." "# : untold\nbody").result
        = .error (.content (.missingTitle .embed)) := by
  have hmarked : (noFiles.parseText .embed "." markedOnly).result
      = .ok { embed := {
          title := "T".toList, text := " body".toList,
          fields := [{ title := "F".toList, text := " seen \\&".toList },
            { title := "G".toList, text := " &".toList }, { title := "H".toList }] } } := by
    decide +kernel
  have huntitled : (noFiles.parseText .embed "." "# : untold\nbody").result = .ok {} := by
    decide +kernel
  have hopened : (((Text.lines markedOnly).map Line.ofSource).filterMap Line.fieldTitle?)[1]?
      = some "G".toList := by
    decide +kernel
  have hfirst : ¬Bare ((Text.lines markedOnly).map Line.ofSource) 0 := by
    rintro (hnone | hmarker)
    · exact hnone ⟨4, "seen \\&".toList, by decide +kernel⟩
    · exact absurd hmarker (by decide +kernel)
  have hlines : (Text.lines "# : untold\nbody").map Line.ofSource
      = [.text "#".toList, .text "body".toList] := by
    decide +kernel
  constructor
  · have titled : .heading "T".toList ∈ (Text.lines markedOnly).map Line.ofSource := by
      decide +kernel
    refine ((Setting.compileText_lacking hmarked).1 _).mpr
      ⟨_, .fieldText titled ⟨2, "body".toList, by decide +kernel⟩ hopened ?_ ?_, rfl⟩
    · exact .inr (by decide +kernel)
    · exact fun earlier hearlier ↦ Nat.lt_one_iff.mp hearlier ▸ hfirst
  · refine ((Setting.compileText_lacking huntitled).1 _).mpr ⟨_, .title fun title htitle ↦ ?_, rfl⟩
    rw [hlines] at htitle
    simp at htitle

end ChatEmbed

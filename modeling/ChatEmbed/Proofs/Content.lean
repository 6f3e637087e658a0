import ChatEmbed.Proofs.Lines
import Mathlib.Data.List.Induction

/-!
# Where the text of a document goes

Text is gathered by a machine with three moving parts: the part of the document that receives text,
a flag for a blank line, and a list of fields that grows.  What comes out has a description that
needs none of them.  For a line of text at some position, only the lines before it matter:

* `owner` is the part of the document that the line belongs to, which is what the closest heading
  before it opened;
* `joiner` is the character that joins the line to that part, which depends on the closest text line
  before it, wherever that line went.

`gathered` puts the lines of a part together in this way, `Gathers` says it of a whole embed, and
`parseLines_content` says that it is what a document holds.
-/

set_option autoImplicit false

namespace ChatEmbed

namespace Line

/-- The title of the embed that the line is. -/
def title? : Line → Option Text
  | .heading title => some title
  | _ => none

/-- The title of the field that the line opens. -/
def fieldTitle? : Line → Option Text
  | .subheading title => some title
  | _ => none

/-- The text that the line is, which may be empty. -/
def text? : Line → Option Text
  | .text content => some content
  | _ => none

/-- Whether text after the line goes somewhere else than before it. -/
def isHeading : Line → Bool
  | .heading _ | .subheading _ => true
  | _ => false

end Line

/-- A line that is no content has no title and no text, and opens nothing. -/
theorem Line.eq_none_of_isContent_eq_false {line : Line} (h : line.isContent = false) :
    line.title? = none ∧ line.fieldTitle? = none ∧ line.text? = none ∧ line.isHeading = false := by
  cases line with
  | heading | subheading | text => cases h
  | _ => exact ⟨rfl, rfl, rfl, rfl⟩

/-- Only a heading or a subheading has a title. -/
theorem Line.fieldTitle?_eq_none {line : Line} (h : line.isHeading = false) :
    line.fieldTitle? = none := by
  cases line with
  | heading | subheading => cases h
  | _ => rfl

/-! ## The description -/

/-- The part of a document that text after these lines belongs to: what the closest heading among
them opened. -/
def owner (before : List Line) : Target :=
  match (before.filter Line.isHeading).getLast? with
  | some (.heading _) => .body
  | some (.subheading _) => .field ((before.filterMap Line.fieldTitle?).length - 1)
  | _ => .nowhere

/-- The character that joins text after these lines to the text of its part. -/
def joiner (before : List Line) : Char :=
  if (before.filterMap Line.text?).getLast? = some [] then '\n' else ' '

/-- What a line adds to a part of the document. -/
def addition (part : Target) (before : List Line) : Line → Text
  | .text (c :: r) => if owner before = part then joiner before :: c :: r else []
  | _ => []

/-- The text of a part of the document: the additions of all lines, in order. -/
def gathered (part : Target) (lines : List Line) : Text :=
  lines.zipIdx.flatMap fun (line, i) ↦ addition part (lines.take i) line

/-- The lines make an embed with this content. -/
structure Gathers (lines : List Line) (embed : Embed) : Prop where
  /-- The last heading is the title. -/
  title : embed.title = (lines.filterMap Line.title?).getLast?.getD []
  /-- The body holds the text that belongs to it, and nothing else. -/
  text : embed.text = gathered .body lines
  /-- There is one field for every subheading, with its title and the text that belongs to it. -/
  fields : embed.fields = (lines.filterMap Line.fieldTitle?).mapIdx fun index title ↦
    { title, text := gathered (.field index) lines }

/-! ## One line more -/

theorem filterMap_concat {α β : Type} (f : α → Option β) (l : List α) (a : α) :
    (l ++ [a]).filterMap f = l.filterMap f ++ (f a).toList := by
  cases h : f a <;> simp [List.filterMap_append, h]

theorem owner_concat_of_not_isHeading {line : Line} (h : line.isHeading = false)
    (lines : List Line) : owner (lines ++ [line]) = owner lines := by
  rw [owner, owner, List.filter_append, filterMap_concat, List.filter_cons_of_neg (by simp [h]),
    Line.fieldTitle?_eq_none h, List.filter_nil, Option.toList_none, List.append_nil,
    List.append_nil]

theorem owner_concat_heading (lines : List Line) (title : Text) :
    owner (lines ++ [.heading title]) = .body := by
  rw [owner, List.filter_append, List.filter_cons_of_pos rfl, List.filter_nil,
    List.getLast?_concat]

theorem owner_concat_subheading (lines : List Line) (title : Text) :
    owner (lines ++ [.subheading title]) = .field (lines.filterMap Line.fieldTitle?).length := by
  rw [owner, List.filter_append, List.filter_cons_of_pos rfl, List.filter_nil,
    List.getLast?_concat, filterMap_concat]
  simp [Line.fieldTitle?]

/-- The field that text goes to is always the last one. -/
theorem owner_eq_field {lines : List Line} {index : Nat} (h : owner lines = .field index) :
    index + 1 = (lines.filterMap Line.fieldTitle?).length := by
  induction lines using List.reverseRecOn with
  | nil => cases h
  | append_singleton lines line ih =>
    cases line with
    | heading title => rw [owner_concat_heading] at h; cases h
    | subheading title =>
      rw [owner_concat_subheading] at h
      cases h
      simp [Line.fieldTitle?]
    | _ =>
      rw [owner_concat_of_not_isHeading rfl] at h
      rw [filterMap_concat]
      simpa [Line.fieldTitle?] using ih h

theorem joiner_concat_text (lines : List Line) (text : Text) :
    joiner (lines ++ [.text text]) = if text = [] then '\n' else ' ' := by
  simp [joiner, Line.text?]

theorem joiner_concat_of_text?_eq_none {line : Line} (h : line.text? = none) (lines : List Line) :
    joiner (lines ++ [line]) = joiner lines := by
  rw [joiner, joiner, filterMap_concat, h, Option.toList_none, List.append_nil]

/-- Only text adds anything. -/
theorem addition_eq_nil_of_text?_eq_none {line : Line} (h : line.text? = none) (part : Target)
    (before : List Line) : addition part before line = [] := by
  cases line with
  | text => cases h
  | _ => rfl

theorem gathered_concat (part : Target) (lines : List Line) (line : Line) :
    gathered part (lines ++ [line]) = gathered part lines ++ addition part lines line := by
  have hbefore : lines.zipIdx.flatMap (fun (l, i) ↦ addition part ((lines ++ [line]).take i) l)
      = gathered part lines := by
    refine List.flatMap_congr fun ⟨l, i⟩ hmem ↦ ?_
    have hi : i < lines.length := by
      have := List.mem_zipIdx hmem
      omega
    dsimp only
    rw [List.take_append_of_le_length (Nat.le_of_lt hi)]
  rw [gathered, List.zipIdx_append, List.flatMap_append, hbefore]
  simp

/-- Nothing belongs to a field that no subheading has opened yet. -/
theorem gathered_field_eq_nil {lines : List Line} {index : Nat}
    (h : (lines.filterMap Line.fieldTitle?).length ≤ index) :
    gathered (.field index) lines = [] := by
  induction lines using List.reverseRecOn with
  | nil => rfl
  | append_singleton lines line ih =>
    rw [filterMap_concat, List.length_append] at h
    rw [gathered_concat, ih (by omega), List.nil_append, addition.eq_def]
    split
    · next c r =>
      refine if_neg fun howner ↦ ?_
      have := owner_eq_field howner
      omega
    · rfl

/-! ## One edit more -/

/-- Text reaches the field at the index of the target, if it is there. -/
theorem fields_appendText (target : Target) (added : Text) (embed : Embed) :
    (Draft.appendText target added embed).fields = embed.fields.mapIdx fun index field ↦
      if target = .field index then field.append added else field := by
  refine List.ext_getElem? fun i ↦ ?_
  cases target with
  | field index =>
    rw [Draft.appendText, List.getElem?_modify, List.getElem?_mapIdx]
    simp only [Target.field.injEq]
    rfl
  | _ => simp [Draft.appendText]

theorem text_appendText (target : Target) (added : Text) (embed : Embed) :
    (Draft.appendText target added embed).text =
      embed.text ++ if target = .body then added else [] := by
  cases target <;> simp [Draft.appendText]

theorem title_appendText (target : Target) (added : Text) (embed : Embed) :
    (Draft.appendText target added embed).title = embed.title := by
  cases target <;> rfl

/-- An edit that is no content leaves the content alone, and what the next text depends on. -/
theorem apply_of_isContent_eq_false {edit : Edit} (h : edit.isContent = false) (draft : Draft) :
    (draft.apply edit).blueprint.embed.title = draft.blueprint.embed.title ∧
      (draft.apply edit).blueprint.embed.text = draft.blueprint.embed.text ∧
      (draft.apply edit).blueprint.embed.fields = draft.blueprint.embed.fields ∧
      (draft.apply edit).target = draft.target ∧
      (draft.apply edit).separator = draft.separator := by
  cases edit with
  | blank | write | title | field => cases h
  | _ => exact ⟨rfl, rfl, rfl, rfl, rfl⟩

/-! ## The invariant -/

/-- The draft is what the lines make: its content is what they gather, and the machine is set up for
the next text as the closest lines before it demand. -/
structure Follows (lines : List Line) (draft : Draft) : Prop where
  gathers : Gathers lines draft.blueprint.embed
  target : draft.target = owner lines
  separator : draft.separator = joiner lines

theorem follows_nil : Follows [] {} :=
  ⟨⟨rfl, rfl, rfl⟩, rfl, rfl⟩

/-- A line that adds nothing to any part leaves the fields as they are. -/
theorem mapIdx_addition_eq_self {lines : List Line} {line : Line}
    (h : ∀ part, addition part lines line = []) (fields : List Field) :
    (fields.mapIdx fun index field ↦ field.append (addition (.field index) lines line)) =
      fields := by
  refine List.ext_getElem? fun i ↦ ?_
  rw [List.getElem?_mapIdx]
  cases fields[i]? with
  | none => rfl
  | some field => rw [Option.map_some, Field.append, h, List.append_nil]

/-- **One line more, and what it does to the content.**  It may replace the title, every part gets
what it adds to it, and it may open a field, which nothing has been added to so far. -/
theorem Gathers.concat {lines : List Line} {embed next : Embed} (h : Gathers lines embed)
    (line : Line) (title : next.title = line.title?.getD embed.title)
    (text : next.text = embed.text ++ addition .body lines line)
    (fields : next.fields =
      (embed.fields.mapIdx fun index field ↦ field.append (addition (.field index) lines line)) ++
        line.fieldTitle?.toList.map fun title ↦ ({ title } : Field)) :
    Gathers (lines ++ [line]) next := by
  refine ⟨?_, ?_, ?_⟩
  · rw [title, h.title, filterMap_concat]
    cases line.title? with
    | none => rw [Option.toList_none, List.append_nil, Option.getD_none]
    | some last => rw [Option.toList_some, List.getLast?_concat, Option.getD_some, Option.getD_some]
  · rw [text, h.text, gathered_concat]
  · have hold : (embed.fields.mapIdx fun index field ↦
        field.append (addition (.field index) lines line)) =
        (lines.filterMap Line.fieldTitle?).mapIdx fun index title ↦
          { title, text := gathered (.field index) (lines ++ [line]) } := by
      rw [h.fields, List.mapIdx_mapIdx]
      refine congrArg (List.mapIdx · _) (funext fun index ↦ funext fun title ↦ ?_)
      rw [gathered_concat]
      rfl
    rw [fields, hold, filterMap_concat, List.mapIdx_append]
    refine congrArg _ ?_
    cases hline : line with
    | subheading title =>
      rw [Line.fieldTitle?, Option.toList_some, List.map_singleton, List.mapIdx_singleton,
        gathered_concat, gathered_field_eq_nil (Nat.le_add_left ..)]
      rfl
    | _ => rfl

/-- The title is replaced, and text goes to the body from here on. -/
theorem Follows.heading {lines : List Line} {draft : Draft} (h : Follows lines draft)
    (title : Text) : Follows (lines ++ [.heading title]) (draft.apply (.title title)) where
  gathers := by
    refine h.gathers.concat _ rfl (List.append_nil _).symm ?_
    rw [mapIdx_addition_eq_self fun _ ↦ rfl]
    exact (List.append_nil _).symm
  target := (owner_concat_heading lines title).symm
  separator := h.separator.trans (joiner_concat_of_text?_eq_none rfl lines).symm

/-- A field is opened, and text goes to it from here on. -/
theorem Follows.subheading {lines : List Line} {draft : Draft} (h : Follows lines draft)
    (title : Text) : Follows (lines ++ [.subheading title]) (draft.apply (.field title)) where
  gathers := by
    refine h.gathers.concat _ rfl (List.append_nil _).symm ?_
    rw [mapIdx_addition_eq_self fun _ ↦ rfl]
    rfl
  target := by
    have hlength := congrArg List.length h.gathers.fields
    rw [List.length_mapIdx] at hlength
    rw [owner_concat_subheading, ← hlength]
    rfl
  separator := h.separator.trans (joiner_concat_of_text?_eq_none rfl lines).symm

/-- A blank line adds nothing but has a say in what joins the next text. -/
theorem Follows.blank {lines : List Line} {draft : Draft} (h : Follows lines draft) :
    Follows (lines ++ [.text []]) (draft.apply .blank) where
  gathers := by
    refine h.gathers.concat _ rfl (List.append_nil _).symm ?_
    rw [mapIdx_addition_eq_self fun _ ↦ rfl]
    exact (List.append_nil _).symm
  target := by
    rw [owner_concat_of_not_isHeading rfl]
    exact h.target
  separator := by
    rw [joiner_concat_text, if_pos rfl]
    rfl

/-- Text goes to the part that the lines before it say, joined as they say. -/
theorem Follows.text {lines : List Line} {draft : Draft} (h : Follows lines draft) {text : Text}
    (visible : text ≠ []) : Follows (lines ++ [.text text]) (draft.apply (.write text)) := by
  obtain ⟨c, rest, rfl⟩ := List.exists_cons_of_ne_nil visible
  have hadd (part : Target) : addition part lines (.text (c :: rest)) =
      if draft.target = part then draft.separator :: c :: rest else [] := by
    rw [addition, h.target, h.separator]
  refine ⟨?_, ?_, ?_⟩
  · refine h.gathers.concat _ (title_appendText ..) ?_ ?_
    · rw [hadd]
      exact text_appendText ..
    · simp only [hadd]
      refine (fields_appendText ..).trans ?_
      refine (congrArg (List.mapIdx · _) (funext fun index ↦ funext fun field ↦ ?_)).trans
        (List.append_nil _).symm
      split
      · rfl
      · rw [Field.append, List.append_nil]
  · rw [owner_concat_of_not_isHeading rfl]
    exact h.target
  · rw [joiner_concat_text, if_neg visible]
    rfl

/-- What is no content changes nothing here. -/
theorem Follows.directive {lines : List Line} {draft : Draft} (h : Follows lines draft)
    {line : Line} {edit : Edit} (hline : line.isContent = false) (hedit : edit.isContent = false) :
    Follows (lines ++ [line]) (draft.apply edit) := by
  obtain ⟨htitle, hfield, htext, hheading⟩ := Line.eq_none_of_isContent_eq_false hline
  have hadd (part : Target) : addition part lines line = [] :=
    addition_eq_nil_of_text?_eq_none htext part lines
  obtain ⟨title, text, fields, target, separator⟩ := apply_of_isContent_eq_false hedit draft
  refine ⟨h.gathers.concat line ?_ ?_ ?_, ?_, ?_⟩
  · rw [title, htitle, Option.getD_none]
  · rw [text, hadd, List.append_nil]
  · rw [fields, mapIdx_addition_eq_self hadd, hfield]
    exact (List.append_nil _).symm
  · rw [target, owner_concat_of_not_isHeading hheading, h.target]
  · rw [separator, joiner_concat_of_text?_eq_none htext, h.separator]

/-! ## The parser -/

section

variable {load : Text → Run ParseError (Option Template)} {kind : DocumentKind} {now : Text}

/-- **The invariant is kept by every line** with the edit that it makes. -/
theorem Follows.of_makes {lines : List Line} {draft : Draft} (h : Follows lines draft)
    {line : Text} {edit : Edit} (hmakes : Makes load kind now line edit) :
    Follows (lines ++ [Line.ofSource line]) (draft.apply edit) := by
  cases hcontent : (Line.ofSource line).isContent with
  | false => exact h.directive hcontent (hmakes.isContent_eq.trans hcontent)
  | true =>
    have htemplate : (Line.ofSource line).template? = none := by
      cases hline : Line.ofSource line with
      | command name argument => rw [hline] at hcontent; cases hcontent
      | _ => rfl
    have hasks := (makes_iff_of_template?_eq_none htemplate).mp hmakes
    generalize Line.ofSource line = l at hasks hcontent
    cases hasks with
    | blank => exact h.blank
    | write visible allowed => exact h.text visible
    | title allowed => exact h.heading _
    | field allowed => exact h.subheading _
    | _ => cases hcontent

/-- **The invariant holds along a whole document.** -/
theorem follows_ofEdits {lines : List Text} {edits : List Edit}
    (h : List.Forall₂ (Makes load kind now) lines edits) :
    Follows (lines.map Line.ofSource) (Draft.ofEdits edits) := by
  refine ofEdits_induction
    (motive := fun lines draft ↦ Follows (lines.map Line.ofSource) draft) follows_nil ?_ h
  intro lines draft line edit hfollows hmakes
  rw [List.map_append, List.map_singleton]
  exact hfollows.of_makes hmakes

end

/-- A document that was parsed is what its lines make. -/
theorem gathers_of_parseLines {setting : Setting} {kind : DocumentKind} {dir : Path}
    {lines : List Text} {document : Blueprint}
    (h : (setting.parseLines kind dir lines).result = .ok document) :
    Gathers (lines.map Line.ofSource) document.embed := by
  obtain ⟨edits, hedits, rfl⟩ := documentOfLines_eq_ok_iff.mp h
  exact (follows_ofEdits hedits).gathers

/-- While a field is active it is the last one of the draft. -/
theorem Follows.index_succ_eq_length {lines : List Line} {draft : Draft} (h : Follows lines draft)
    {index : Nat} (hindex : draft.target = .field index) :
    index + 1 = draft.blueprint.embed.fields.length := by
  rw [h.gathers.fields, List.length_mapIdx]
  exact owner_eq_field (h.target.symm.trans hindex)

/-- **Where the text of a document goes.**  If the lines are accepted, the title, the body and the
fields are what `Gathers` says of the lines.  Along the way, text goes where the lines read so far
say, and if that is a field, it is the last one of those that are there. -/
theorem parseLines_content {setting : Setting} {kind : DocumentKind} {dir : Path}
    {lines : List Text} {document : Blueprint}
    (h : (setting.parseLines kind dir lines).result = .ok document) :
    Gathers (lines.map Line.ofSource) document.embed ∧
      ∃ edits, (lineEdits (setting.template dir) kind setting.now 1 0 lines).result = .ok edits ∧
        (Draft.ofEdits edits).blueprint = document ∧
        ∀ n, (Draft.ofEdits (edits.take n)).target = owner ((lines.take n).map Line.ofSource) ∧
          ∀ index, (Draft.ofEdits (edits.take n)).target = .field index →
            index + 1 = (Draft.ofEdits (edits.take n)).blueprint.embed.fields.length := by
  obtain ⟨edits, hedits, rfl⟩ := documentOfLines_eq_ok_iff.mp h
  refine ⟨(follows_ofEdits hedits).gathers, edits, lineEdits_eq_ok_iff.mpr hedits, rfl, ?_⟩
  intro n
  have hfollows := follows_ofEdits (List.forall₂_take n hedits)
  exact ⟨hfollows.target, fun index hindex ↦ hfollows.index_succ_eq_length hindex⟩

/-- A setting without any files. -/
def noFiles : Setting where
  source := MemoryFiles.source {}

/-- The blank line before the first heading is still in force after a color and two headings, and a
comment line is a blank line. -/
theorem parseLines_content_after_dropped_blank :
    (noFiles.parseLines .blueprint "." ["lost".toList, "".toList, "# A".toList, "%1".toList,
        "## B".toList, "one".toList, "two : x".toList, " : y".toList, "# C".toList,
        "three".toList]).result
      = .ok { embed := {
          title := "C".toList, text := "\nthree".toList,
          fields := [{ title := "B".toList, text := "\none two".toList }],
          attributes := { color := 0x010101 } } } ∧
    Gathers (["lost".toList, "".toList, "# A".toList, "%1".toList,
        "## B".toList, "one".toList, "two : x".toList, " : y".toList, "# C".toList,
        "three".toList].map Line.ofSource)
      { title := "C".toList, text := "\nthree".toList,
        fields := [{ title := "B".toList, text := "\none two".toList }],
        attributes := { color := 0x010101 } } := by
  refine ⟨?accepted, (parseLines_content ?accepted).1⟩
  decide +kernel

end ChatEmbed

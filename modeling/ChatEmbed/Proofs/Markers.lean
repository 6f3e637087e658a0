import ChatEmbed.Proofs.Classification

/-!
# Markers at the end of a field

Two functions look at the end of a trimmed text: one for the marker and then for the marker with a
backslash before it, the other the other way round.  `Field.Reads` lists the three cases that this
comes to, and everything else is read off from them.

* `Field.reads_trim` says that the value of a field, and whether it stands next to others, are what
  `Field.Reads` says.
* `Field.spell` is the text of a field for a value, next to others or not, and `Field.read_spell`
  reads it.
* `Field.isInline_iff` and `Field.get?_inline_iff` say which fields stand next to others, and that
  their JSON form tells so.
-/

set_option autoImplicit false

namespace ChatEmbed

/-! ## The ends of a text -/

namespace Text

theorem trim_eq_trimEnd {s : Text} (h : ∀ c, s.head? = some c → isBlank c = false) :
    trim s = trimEnd s := by
  rw [trim, trimStart_eq_of_head h]

/-- An end with visible ends of its own can stand in for another one. -/
theorem Trimmed.replace_end {start stop other : Text} (h : Trimmed (start ++ stop))
    (hother : Trimmed other) (hne : other ≠ []) : Trimmed (start ++ other) where
  first c hc := by
    cases start with
    | nil => exact hother.first c hc
    | cons d start => exact h.first c hc
  last c hc := by
    rw [List.getLast?_append_of_ne_nil start hne] at hc
    exact hother.last c hc

/-- What a text with visible ends begins with has blanks at most at its own end. -/
theorem Trimmed.trimmed_trimEnd {start stop : Text} (h : Trimmed (start ++ stop)) :
    Trimmed (trimEnd start) := by
  have hfirst : ∀ c, start.head? = some c → isBlank c = false := by
    intro c hc
    refine h.first c ?_
    rw [List.head?_append, hc, Option.some_or]
  rw [← trim_eq_trimEnd hfirst]
  exact trimmed_trim start

theorem Trimmed.trimEnd_eq {s : Text} (h : Trimmed s) : trimEnd s = s :=
  (trim_eq_trimEnd h.first).symm.trans h.trim_eq

end Text

namespace Field

theorem trimmed_marker : Text.Trimmed [marker] := Text.trimmed_singleton (by decide)

theorem trimmed_escaped : Text.Trimmed ['\\', marker] :=
  (Text.trimmed_singleton (by decide)).append trimmed_marker (by decide) (by decide) []

/-! ## Reading -/

/-- How a trimmed text is read: the value, and whether it stands next to others. -/
inductive Reads : Text → Text → Bool → Prop
  /-- A marker with a backslash before it is an ordinary character. -/
  | escaped (start : Text) : Reads (start ++ ['\\', marker]) (start ++ [marker]) false
  /-- Any other marker at the end is taken off, with the blanks before it. -/
  | marked {start : Text} (h : start.getLast? ≠ some '\\') :
      Reads (start ++ [marker]) (Text.trimEnd start) true
  | plain {text : Text} (h : text.getLast? ≠ some marker) : Reads text text false

theorem exists_reads (text : Text) : ∃ value inline, Reads text value inline := by
  by_cases hmarker : text.getLast? = some marker
  · obtain ⟨front, rfl⟩ := List.getLast?_eq_some_iff.mp hmarker
    by_cases hbackslash : front.getLast? = some '\\'
    · obtain ⟨start, rfl⟩ := List.getLast?_eq_some_iff.mp hbackslash
      rw [List.append_assoc]
      exact ⟨_, _, .escaped start⟩
    · exact ⟨_, _, .marked hbackslash⟩
  · exact ⟨_, _, .plain hmarker⟩

/-- Both functions agree on the case. -/
theorem Reads.eq {field : Field} {value : Text} {inline : Bool}
    (h : Reads (Text.trim field.text) value inline) :
    field.value = value ∧ field.isInline = inline := by
  rw [Field.value, isInline]
  generalize Text.trim field.text = text at h
  cases h with
  | escaped start => simp
  | @marked start hstart =>
    have hescaped : Text.dropEnd? ['\\', marker] (start ++ [marker]) = none := by
      refine Option.eq_none_iff_forall_ne_some.mpr fun front hfront ↦ hstart ?_
      have hends : start ++ [marker] = (front ++ ['\\']) ++ [marker] := by
        rw [Text.dropEnd?_eq_some_iff.mp hfront, List.append_assoc]
        rfl
      rw [List.append_cancel_right hends, List.getLast?_concat]
    simp [hescaped]
  | plain hplain =>
    have hmarked : Text.dropEnd? [marker] value = none := Text.dropEnd?_eq_none (by decide) hplain
    have hescaped : Text.dropEnd? ['\\', marker] value = none :=
      Text.dropEnd?_eq_none (by decide) hplain
    simp [hmarked, hescaped]

/-- **What is read from a field**: its value, and whether it stands next to others. -/
theorem reads_trim (field : Field) :
    Reads (Text.trim field.text) field.value field.isInline := by
  obtain ⟨value, inline, hreads⟩ := exists_reads (Text.trim field.text)
  obtain ⟨hvalue, hinline⟩ := hreads.eq
  rwa [hvalue, hinline]

theorem Reads.trimmed {text value : Text} {inline : Bool} (h : Reads text value inline)
    (htext : Text.Trimmed text) : Text.Trimmed value := by
  cases h with
  | escaped start => exact htext.replace_end trimmed_marker (List.cons_ne_nil _ _)
  | marked => exact htext.trimmed_trimEnd
  | plain => exact htext

/-- **The value of a field has visible ends.** -/
theorem trimmed_value (field : Field) : Text.Trimmed field.value :=
  (reads_trim field).trimmed (Text.trimmed_trim field.text)

/-- Blanks around the text of a field do not matter. -/
theorem read_surrounded {before after : Text} (hbefore : ∀ c ∈ before, isBlank c = true)
    (hafter : ∀ c ∈ after, isBlank c = true) (field : Field) :
    { field with text := before ++ (field.text ++ after) }.value = field.value ∧
      { field with text := before ++ (field.text ++ after) }.isInline = field.isInline := by
  refine Reads.eq ?_
  rw [Text.trim_surrounded hbefore hafter]
  exact reads_trim field

/-- The text ends with a marker that has no backslash right before it. -/
def EndsInMarker (text : Text) : Prop :=
  ∃ start, text = start ++ [marker] ∧ start.getLast? ≠ some '\\'

/-- **The fields that stand next to others** are those with a marker at the end of their text. -/
theorem isInline_iff {field : Field} :
    field.isInline = true ↔ EndsInMarker (Text.trim field.text) := by
  constructor
  · intro hinline
    have hreads := reads_trim field
    rw [hinline] at hreads
    generalize Text.trim field.text = text, field.value = value at hreads
    cases hreads with
    | marked hstart => exact ⟨_, rfl, hstart⟩
  · rintro ⟨start, htext, hstart⟩
    have hreads := Reads.marked hstart
    rw [← htext] at hreads
    exact hreads.eq.2

/-- The JSON form of a field has an entry for standing next to others only if that is so. -/
theorem get?_inline_iff {field : Field} {item found : Json} (h : field.payload = .ok item) :
    item.get? "inline" = some found ↔
      EndsInMarker (Text.trim field.text) ∧ found = .bool true := by
  obtain ⟨-, -, rfl⟩ := payload_eq_ok_iff.mp h
  have hentry : (Json.object field.entries).get? "inline" = some (.bool field.isInline) := rfl
  rw [Json.filled_eq field.nodup_keys, Json.get?_filter field.nodup_keys, hentry, ← isInline_iff,
    Option.filter_some]
  cases field.isInline <;> simp [Json.isEmpty, eq_comm]

/-! ## Writing -/

/-- The text of a field with a value, next to others or not.  A value that ends like a marker needs
a backslash before its end. -/
def spell (value : Text) : Bool → Text
  | true => value ++ [' ', marker]
  | false =>
    match Text.dropEnd? [marker] value with
    | some start => start ++ ['\\', marker]
    | none => value

theorem trimmed_spell {value : Text} (h : Text.Trimmed value) (hne : value ≠ []) (inline : Bool) :
    Text.Trimmed (spell value inline) := by
  cases inline with
  | true => exact h.append trimmed_marker hne (List.cons_ne_nil _ _) [' ']
  | false =>
    rw [spell]
    split
    case h_1 start hdrop =>
      obtain rfl := Text.dropEnd?_eq_some_iff.mp hdrop
      exact h.replace_end trimmed_escaped (List.cons_ne_nil _ _)
    case h_2 => exact h

theorem reads_spell {value : Text} (h : Text.Trimmed value) (inline : Bool) :
    Reads (spell value inline) value inline := by
  cases inline with
  | true =>
    have hmarked : Reads (value ++ [' '] ++ [marker]) (Text.trimEnd (value ++ [' '])) true :=
      .marked (by simp)
    rwa [Text.trimEnd_append_blank (List.forall_mem_singleton.mpr (by decide)), h.trimEnd_eq,
      List.append_assoc] at hmarked
  | false =>
    rw [spell]
    split
    case h_1 start hdrop =>
      obtain rfl := Text.dropEnd?_eq_some_iff.mp hdrop
      exact .escaped start
    case h_2 hdrop =>
      refine .plain fun hlast ↦ ?_
      obtain ⟨start, rfl⟩ := List.getLast?_eq_some_iff.mp hlast
      rw [Text.dropEnd?_append] at hdrop
      cases hdrop

/-- **Every value can be written**, next to others or not, if it is not empty and has no blanks at
its ends. -/
theorem read_spell {title value : Text} (hne : value ≠ []) (h : Text.trim value = value)
    (inline : Bool) :
    { title, text := spell value inline : Field }.value = value ∧
      { title, text := spell value inline : Field }.isInline = inline := by
  have htrimmed : Text.Trimmed value := h ▸ Text.trimmed_trim value
  refine Reads.eq ?_
  rw [(trimmed_spell htrimmed hne inline).trim_eq]
  exact reads_spell htrimmed inline

/-- **How a field says that it stands next to others.**  Any value that is not empty and has no
blanks at its ends can be written so that it is read again, next to others or not.

Whatever the text of a field is, its end decides once it is trimmed.  The value has no blanks at its
ends, and blanks around the text change nothing.  The JSON form of the field has an entry for
standing next to others exactly if the text, trimmed, ends with a marker that has no backslash right
before it, and then the entry says so. -/
theorem inline_coding :
    (∀ title value, value ≠ [] → Text.trim value = value → ∀ inline,
      { title, text := spell value inline : Field }.value = value ∧
        { title, text := spell value inline : Field }.isInline = inline) ∧
    ∀ field : Field, Reads (Text.trim field.text) field.value field.isInline ∧
      Text.Trimmed field.value ∧
      (∀ before after : Text, (∀ c ∈ before, isBlank c = true) → (∀ c ∈ after, isBlank c = true) →
        { field with text := before ++ (field.text ++ after) }.value = field.value ∧
          { field with text := before ++ (field.text ++ after) }.isInline = field.isInline) ∧
      ∀ item, field.payload = .ok item → ∀ found, item.get? "inline" = some found ↔
        EndsInMarker (Text.trim field.text) ∧ found = .bool true :=
  ⟨fun _ _ hne h ↦ read_spell hne h,
    fun field ↦ ⟨reads_trim field, trimmed_value field,
      fun _ _ hbefore hafter ↦ read_surrounded hbefore hafter field,
      fun _ hitem _ ↦ get?_inline_iff hitem⟩⟩

/-- A value with an ampersand at its end, written both ways, and a text that ends with an escaped
marker and a real one. -/
theorem inline_coding_twice :
    ("a&".toList ≠ [] ∧ Text.trim "a&" = "a&".toList ∧
      spell "a&" true = "a& &".toList ∧ spell "a&" false = "a\\&".toList ∧
      ({ title := "F", text := "a& &" } : Field).value = "a&".toList ∧
      ({ title := "F", text := "a\\&" } : Field).isInline = false) ∧
    ((∀ c ∈ ['\u2003'], isBlank c = true) ∧
      ({ title := "F", text := ['\u2003'] ++ ("\\&&" ++ ['\u2003']) } : Field).value =
        "\\&".toList) ∧
    ({ title := "F", text := "\\&&" } : Field).payload = .ok (.object
        [("name", .text "F"), ("value", .text "\\&"), ("inline", .bool true)]) ∧
      EndsInMarker (Text.trim "\\&&") := by
  obtain ⟨hwritten, hread⟩ := inline_coding
  have hboth := hwritten "F" "a&" (by decide) (by decide)
  obtain ⟨-, -, hsurrounded, hentry⟩ := hread { title := "F", text := "\\&&" }
  have hblank : ∀ c ∈ ['\u2003'], isBlank c = true := List.forall_mem_singleton.mpr (by decide)
  have hpayload : ({ title := "F", text := "\\&&" } : Field).payload = .ok (.object
      [("name", .text "F"), ("value", .text "\\&"), ("inline", .bool true)]) := rfl
  refine ⟨⟨by decide, by decide, by decide, by decide, (hboth true).1, (hboth false).2⟩,
    ⟨hblank, (hsurrounded _ _ hblank hblank).1⟩, hpayload, ?_⟩
  exact ((hentry _ hpayload _).mp rfl).1

end Field
end ChatEmbed

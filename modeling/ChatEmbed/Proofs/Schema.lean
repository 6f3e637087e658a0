import ChatEmbed.Compiler
import ChatEmbed.Proofs.Inheritance
import ChatEmbed.Proofs.Rendering

/-!
# The form of what comes out

Two ways lead from a text to JSON: an embed is put together at once, a blueprint is put together and
then has its placeholders replaced by whatever a caller likes.  This file says that both end in the
same form.

* `Form` describes what a value can look like, and `Form.embed` is the form of an embed.  A form is
  kept by anything that changes texts and removes entries, so rendering cannot leave it.
* `Json.IsEmbed` is everything that is promised of a value that comes out.
* `Inherits.color_le` bounds the color of a document, wherever it comes from.
* `Setting.isEmbed_result` is the theorem that only embeds in this sense come out.
-/

set_option autoImplicit false

namespace ChatEmbed

/-! ## Forms -/

/-- What a value can look like. -/
inductive Form
  | text
  | flag
  /-- A number of 24 bits. -/
  | color
  | list (item : Form)
  /-- An object that has some of these keys, in this order. -/
  | object (entries : List (Text × Form))

namespace Form

/-- The form of a link to a picture. -/
def picture : Form := .object [("url", .text)]

/-- The form of a footer. -/
def footer : Form := .object [("text", .text), ("icon_url", .text)]

/-- The form of an author. -/
def author : Form := .object [("name", .text), ("url", .text), ("icon_url", .text)]

/-- The form of a field. -/
def field : Form := .object [("name", .text), ("value", .text), ("inline", .flag)]

/-- The form of an embed. -/
def embed : Form :=
  .object [("title", .text), ("description", .text), ("url", .text), ("timestamp", .text),
    ("color", .color), ("footer", .footer), ("fields", .list .field), ("image", .picture),
    ("thumbnail", .picture), ("author", .author)]

/-- A value has a form. -/
inductive Admits : Form → Json → Prop
  | text (s : Text) : Admits .text (.text s)
  | flag (value : Bool) : Admits .flag (.bool value)
  | color {n : Nat} (bounded : n ≤ 0xFFFFFF) : Admits .color (.ofNat n)
  | list {item : Form} {items : List Json} (each : ∀ value ∈ items, Admits item value) :
      Admits (.list item) (.list items)
  | object {allowed : List (Text × Form)} {entries : Json.Entries}
      (keys : (entries.map Prod.fst).Sublist (allowed.map Prod.fst))
      (values : ∀ entry ∈ entries, ∀ form, (entry.1, form) ∈ allowed → Admits form entry.2) :
      Admits (.object allowed) (.object entries)

/-- No text can break a form. -/
theorem Admits.mapText {form : Form} {value : Json} (h : form.Admits value) (f : Text → Text) :
    form.Admits (value.mapText f) := by
  induction h with
  | text s => exact .text (f s)
  | flag value => exact .flag value
  | color bounded => exact .color bounded
  | list each ih =>
    rw [Json.mapText_list]
    exact .list (List.forall_mem_map.mpr ih)
  | object keys values ih =>
    rw [Json.mapText_object]
    refine .object ?_ (List.forall_mem_map.mpr ih)
    rwa [List.map_map]

/-- Neither can an entry that is missing. -/
theorem Admits.filter {allowed : List (Text × Form)} {entries : Json.Entries}
    (h : (Form.object allowed).Admits (.object entries)) (p : Text × Json → Bool) :
    (Form.object allowed).Admits (.object (entries.filter p)) := by
  cases h with
  | object keys values =>
    exact .object ((List.filter_sublist.map _).trans keys)
      fun entry hentry ↦ values entry (List.mem_filter.mp hentry).1

theorem Admits.prune {form : Form} {value : Json} (h : form.Admits value) :
    form.Admits value.prune := by
  induction h with
  | text s => exact .text s
  | flag value => exact .flag value
  | color bounded => exact .color bounded
  | list each ih =>
    rw [Json.prune_list]
    exact .list (List.forall_mem_map.mpr ih)
  | object keys values ih =>
    rw [Json.prune_object]
    refine Admits.filter (.object ?_ (List.forall_mem_map.mpr ih)) _
    rwa [List.map_map]

/-- An object has a form if each of its entries has the form next to it. -/
theorem admits_filled {allowed : List (Text × Form)} {entries : Json.Entries}
    (hkeys : (allowed.map Prod.fst).Nodup)
    (h : List.Forall₂ (fun form entry ↦ form.1 = entry.1 ∧ form.2.Admits entry.2) allowed entries) :
    (Form.object allowed).Admits (Json.filled entries) := by
  have hsame : entries.map Prod.fst = allowed.map Prod.fst := by
    rw [← List.forall₂_eq_eq_eq, List.forall₂_map_left_iff, List.forall₂_map_right_iff]
    exact h.flip.imp fun _ _ hentry ↦ hentry.1.symm
  rw [Json.filled_eq (hsame ▸ hkeys)]
  refine Admits.filter (.object (hsame ▸ List.Sublist.refl _) fun entry hentry form hform ↦ ?_) _
  obtain ⟨i, hi⟩ := List.getElem?_of_mem hentry
  obtain ⟨other, hother, hkey, hadmits⟩ := exists_getElem?_of_forall₂ h hi
  have hmem : other ∈ allowed := List.mem_of_getElem? hother
  obtain rfl : other = (entry.1, form) := List.inj_on_of_nodup_map hkeys hmem hform hkey
  exact hadmits

/-- What is under a key has the form that belongs to the key. -/
theorem Admits.of_get? {allowed : List (Text × Form)} {value found : Json} {key : Text}
    {form : Form} (h : (Form.object allowed).Admits value) (hform : (key, form) ∈ allowed)
    (hfound : value.get? key = some found) : form.Admits found := by
  obtain ⟨entries, rfl, hmem⟩ := Json.exists_mem_of_get? hfound
  cases h with
  | object keys values => exact values (key, found) hmem form hform

end Form

theorem Field.admits_payload {field : Field} {item : Json} (h : field.payload = .ok item) :
    Form.field.Admits item := by
  obtain ⟨-, -, rfl⟩ := payload_eq_ok_iff.mp h
  refine Form.admits_filled (by decide) ?_
  simp only [entries, List.forall₂_cons, true_and]
  exact ⟨.text _, .text _, .flag _, .nil⟩

theorem admits_picturePayload (url : Text) : Form.picture.Admits (picturePayload url) :=
  Form.admits_filled (by decide) (.cons ⟨rfl, .text _⟩ .nil)

/-- The JSON form of an embed has the form of one, if its color has 24 bits. -/
theorem Embed.admits_payload {embed : Embed} {value : Json} (h : embed.payload = .ok value)
    (hcolor : embed.attributes.color ≤ 0xFFFFFF) : Form.embed.Admits value := by
  obtain ⟨-, -, items, hitems, rfl⟩ := payload_eq_ok_iff.mp h
  have hfields : ∀ item ∈ items, Form.field.Admits item := fun item hitem ↦ by
    obtain ⟨field, -, hfield⟩ := exists_of_mem_of_map_eq hitems hitem
    exact field.admits_payload hfield
  have hfooter : Form.footer.Admits embed.attributes.footerPayload :=
    Form.admits_filled (by decide) (.cons ⟨rfl, .text _⟩ (.cons ⟨rfl, .text _⟩ .nil))
  have hauthor : Form.author.Admits embed.attributes.authorPayload :=
    Form.admits_filled (by decide)
      (.cons ⟨rfl, .text _⟩ (.cons ⟨rfl, .text _⟩ (.cons ⟨rfl, .text _⟩ .nil)))
  refine Form.admits_filled (by decide) ?_
  simp only [entries, List.forall₂_cons, true_and]
  exact ⟨.text _, .text _, .text _, .text _, .color hcolor, hfooter, .list hfields,
    admits_picturePayload _, admits_picturePayload _, hauthor, .nil⟩

/-! ## Embeds -/

/-- There is a text under the key, with a visible character. -/
def Json.HasVisible (value : Json) (key : Text) : Prop :=
  ∃ s, value.get? key = some (.text s) ∧ ¬Text.IsBlank s

/-- Everything that is promised of the JSON form of an embed. -/
structure Json.IsEmbed (value : Json) : Prop where
  form : Form.embed.Admits value
  title : value.HasVisible "title"
  description : value.HasVisible "description"
  fields : ∀ item ∈ value.itemsAt "fields", item.HasVisible "name" ∧ item.HasVisible "value"
  inline : ∀ item ∈ value.itemsAt "fields", ∀ flag, item.get? "inline" = some flag →
    flag = .bool true
  color : ∀ found, value.get? "color" = some found → ∃ n, 1 ≤ n ∧ n ≤ 0xFFFFFF ∧ found = .ofNat n
  tidy : value.Tidy

theorem Json.hasVisible_iff {value : Json} {key : Text} :
    value.HasVisible key ↔ ¬Text.IsBlank (value.textAt key) := by
  constructor
  · rintro ⟨s, hs, hvisible⟩
    rwa [textAt, hs]
  · intro h
    rw [textAt] at h
    split at h
    · next s hs => exact ⟨s, hs, h⟩
    · exact absurd rfl h

/-- A value is an embed if it has the form of one, no entry of it says nothing, and rendering would
accept it. -/
theorem Json.isEmbed_of_admits {value : Json} (hform : Form.embed.Admits value) (htidy : value.Tidy)
    (hrequired : requireRendered value = .ok ()) : value.IsEmbed := by
  simp only [requireRendered_eq_ok_iff, ← Json.hasVisible_iff] at hrequired
  obtain ⟨htitle, hdescription, hfields⟩ := hrequired
  refine ⟨hform, htitle, hdescription, hfields, ?inline, ?color, htidy⟩
  case inline =>
    intro item hitem flag hflag
    obtain ⟨items, hitems, hmem⟩ := exists_get?_of_mem_itemsAt hitem
    obtain ⟨i, hi⟩ := List.getElem?_of_mem hmem
    have hlist : (Form.list .field).Admits (.list items) := hform.of_get? (by simp) hitems
    have hitemTidy : item.Tidy := (htidy.of_get? hitems).2.item hi
    have hsays : flag.isEmpty = false := (hitemTidy.of_get? hflag).1
    cases hlist with
    | list each =>
      have hflagForm : Form.flag.Admits flag := (each item hmem).of_get? (by simp) hflag
      cases hflagForm with
      | flag set =>
        cases set with
        | true => rfl
        | false => cases hsays
  case color =>
    intro found hfound
    have hadmits : Form.color.Admits found := hform.of_get? (by simp) hfound
    have hsays : found.isEmpty = false := (htidy.of_get? hfound).1
    cases hadmits with
    | @color n bounded =>
      refine ⟨n, Nat.one_le_iff_ne_zero.mpr ?_, bounded, rfl⟩
      rintro rfl
      cases hsays

/-- An embed whose color has 24 bits is an embed in JSON too. -/
theorem Embed.isEmbed_payload {embed : Embed} {value : Json} (h : embed.payload = .ok value)
    (hcolor : embed.attributes.color ≤ 0xFFFFFF) : value.IsEmbed :=
  Json.isEmbed_of_admits (admits_payload h hcolor) (tidy_payload h) (requireRendered_payload h)

/-- Rendering gives an embed for any values. -/
theorem Blueprint.isEmbed_render {blueprint : Blueprint} {overrides : Overrides} {value : Json}
    (h : blueprint.render overrides = .ok value)
    (hcolor : blueprint.embed.attributes.color ≤ 0xFFFFFF) : value.IsEmbed := by
  obtain ⟨pairs, base, -, hbase, rfl, hrequired⟩ := render_eq_ok_iff.mp h
  exact Json.isEmbed_of_admits ((Embed.admits_payload hbase hcolor).mapText _).prune
    (Json.tidy_prune _) hrequired

/-! ## Colors -/

namespace Color

theorem le_of_level {digits : Text} {n : Nat} (h : level digits = .ok n) : n ≤ 255 := by
  rw [level] at h
  split at h
  · next hle =>
    cases h
    exact hle
  · cases h

/-- A color that can be written has 24 bits. -/
theorem le_of_read {argument : Text} {n : Nat} (h : read argument = .ok n) : n ≤ 0xFFFFFF := by
  simp only [read, bind_eq_ok_iff, mapM_eq_ok_iff] at h
  obtain ⟨digits, -, levels, hlevels, hcolor⟩ := h
  have hle : ∀ level ∈ levels, level ≤ 255 := fun level hlevel ↦ by
    obtain ⟨_, -, hread⟩ := exists_of_mem_of_map_eq hlevels hlevel
    exact le_of_level hread
  match levels with
  | [gray] =>
    have hgray := hle gray (by simp)
    cases hcolor
    rw [pack]
    omega
  | [r, g, b] =>
    have hr := hle r (by simp)
    have hg := hle g (by simp)
    have hb := hle b (by simp)
    cases hcolor
    rw [pack]
    omega

end Color

/-- What every given and every offered value has, the rule for an attribute keeps. -/
theorem Slot.settled_of_forall {slot : Slot} {now : Text} {supply : Text → Option Attributes}
    {P : slot.Value → Prop} {lines : List Line} (hunset : P slot.unset)
    (hgiven : ∀ line ∈ lines, ∀ v, slot.given? now line = some v → P v)
    (hoffered : ∀ line ∈ lines, ∀ v, slot.offered? supply line = some v → P v) :
    P (slot.settled now supply lines) := by
  induction lines using List.reverseRecOn with
  | nil => rwa [settled_nil]
  | append_singleton lines line ih =>
    have hbefore : P (slot.settled now supply lines) :=
      ih (fun l hl ↦ hgiven l (List.mem_append_left _ hl))
        fun l hl ↦ hoffered l (List.mem_append_left _ hl)
    have hline : line ∈ lines ++ [line] := List.mem_append_right _ (List.mem_singleton_self line)
    rw [settled_concat]
    cases hv : slot.given? now line with
    | some v => exact hgiven line hline v hv
    | none =>
      rw [Option.getD_none]
      split
      · cases hv : slot.offered? supply line with
        | some v => exact hoffered line hline v hv
        | none => exact hunset
      · exact hbefore

theorem Slot.color_le_of_given? {now : Text} {line : Line} {n : Nat}
    (h : Slot.color.given? now line = some n) : n ≤ 0xFFFFFF := by
  have hread {argument : Text} (h : (Color.read argument).toOption = some n) : n ≤ 0xFFFFFF := by
    cases hcolor : Color.read argument with
    | error e => rw [hcolor] at h; cases h
    | ok m =>
      rw [hcolor] at h
      cases h
      exact Color.le_of_read hcolor
  cases line with
  | command name argument =>
    rw [given?] at h
    split at h
    · exact hread h
    · cases h
  | color argument => exact hread h
  | _ => cases h

/-- **A color has 24 bits**, wherever a document has it from. -/
theorem Inherits.color_le {setting : Setting} {dir : Path} {lines : List Text} {final : Attributes}
    (h : Inherits setting dir lines final) : final.color ≤ 0xFFFFFF := by
  induction h with
  | @intro dir lines final attributes templates settled ih =>
    have hcolor : final.color = Slot.color.settled setting.now (setting.supply dir attributes)
        (lines.map Line.ofSource) := settled .color
    rw [hcolor]
    refine @Slot.settled_of_forall .color _ _ (fun n : Nat ↦ n ≤ 0xFFFFFF) _ ?unset ?given ?offered
    case unset => exact Nat.zero_le _
    case given => exact fun _ _ _ ↦ Slot.color_le_of_given?
    case offered =>
      intro line hline n hoffered
      obtain ⟨source, hsource, rfl⟩ := List.mem_map.mp hline
      obtain ⟨supplied, hsupplied, rfl⟩ := Option.map_eq_some_iff.mp hoffered
      obtain ⟨name, hname, hsupply⟩ := Option.bind_eq_some_iff.mp hsupplied
      rw [Setting.supply] at hsupply
      split at hsupply
      · next file hfile =>
        cases hsupply
        exact ih source hsource name file hname hfile
      · cases hsupply

/-! ## What comes out -/

theorem Setting.finish_eq_ok_iff {parsed : Run ParseError Blueprint}
    {form : Blueprint → Except ContentError Json} {value : Json} :
    (finish parsed form).result = .ok value ↔
      ∃ document, parsed.result = .ok document ∧ form document = .ok value := by
  have hmap {ε ε' α : Type} (f : ε → ε') (x : Except ε α) (a : α) :
      x.mapError f = .ok a ↔ x = .ok a := by
    cases x <;> simp [Except.mapError]
  simp only [finish, Run.result_bind_eq_ok_iff, Run.mapError, Run.ofExcept, hmap]

/-- **Only embeds come out.**  Whatever the text, the files, the configuration and the values that a
caller gives: what compiling or rendering the text gives is an embed. -/
theorem Setting.isEmbed_result (setting : Setting) (dir : Path) (text : Text) :
    (∀ value, (setting.compileText dir text).result = .ok value → value.IsEmbed) ∧
    ∀ overrides value, (setting.renderText dir text overrides).result = .ok value →
      value.IsEmbed := by
  constructor
  · intro value h
    obtain ⟨document, hdocument, hvalue⟩ := finish_eq_ok_iff.mp h
    exact Embed.isEmbed_payload hvalue (inherits_of_documentOfLines hdocument).color_le
  · intro overrides value h
    obtain ⟨document, hdocument, hvalue⟩ := finish_eq_ok_iff.mp h
    exact Blueprint.isEmbed_render hvalue (inherits_of_documentOfLines hdocument).color_le

/-- A template with a color and a footer. -/
def letterhead : Setting where
  source := MemoryFiles.source ⟨[("t.template.dem", "%1,2,3\n@footer who".toList)]⟩
  config := { maxDepth := 3 }

/-- The color of a template comes out, and its footer as long as there is something in it; a caller
cannot put a field next to others. -/
theorem Setting.isEmbed_result_letterhead :
    ∃ compiled rendered,
      compiled = .object [("title", .text "Hi".toList), ("description", .text "Hello".toList),
        ("color", .ofNat 0x010203), ("footer", .object [("text", .text "who".toList)]),
        ("fields", .list [
          .object [("name", .text "To".toList), ("value", .text "you".toList),
            ("inline", .bool true)]])] ∧
      (letterhead.compileText "." "@template t\n# Hi\nHello\n## To\nyou&".toList).result
        = .ok compiled ∧
      compiled.IsEmbed ∧
      rendered = .object [("title", .text "Hi".toList), ("description", .text "Hello".toList),
        ("color", .ofNat 0x010203),
        ("fields", .list [
          .object [("name", .text "To".toList), ("value", .text "you&".toList)]])] ∧
      (letterhead.renderText "."
          "@template t\n@replace who?\n@replace you\n# Hi\nHello\n## To\nyou".toList
          [("you".toList, "you&".toList)]).result = .ok rendered ∧
      rendered.IsEmbed := by
  refine ⟨_, _, rfl, ?compiled, (isEmbed_result letterhead _ _).1 _ ?compiled, rfl, ?rendered,
    (isEmbed_result letterhead _ _).2 _ _ ?rendered⟩
  case compiled =>
    exact finish_eq_ok_iff.mpr ⟨{ embed := {
      title := "Hi".toList, text := " Hello".toList,
      attributes := { color := 0x010203, footerText := "who".toList },
      fields := [{ title := "To".toList, text := " you&".toList }] } }, by decide +kernel, rfl⟩
  case rendered =>
    exact finish_eq_ok_iff.mpr ⟨{
      embed := {
        title := "Hi".toList, text := " Hello".toList,
        attributes := { color := 0x010203, footerText := "who".toList },
        fields := [{ title := "To".toList, text := " you".toList }] }
      replacements := [⟨"who".toList, some []⟩, ⟨"you".toList, none⟩] }, by decide +kernel, rfl⟩

end ChatEmbed
